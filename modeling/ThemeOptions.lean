import ThemeOptions.Contribution.Writing
import ThemeOptions.Main
import ThemeOptions.Proofs.CleanContributions
import ThemeOptions.Proofs.Diagnostics
import ThemeOptions.Proofs.History
import ThemeOptions.Proofs.LateDefaults
import ThemeOptions.Proofs.Places
import ThemeOptions.Proofs.RepeatedOptions
import ThemeOptions.Proofs.SilentRules
import ThemeOptions.Proofs.WrittenValues
import ThemeOptions.Proofs.OpenDefaults
import ThemeOptions.Proofs.RepeatedRegistration
import ThemeOptions.Proofs.AlikeSections
import ThemeOptions.Proofs.WholeNumbers
import ThemeOptions.Proofs.WrittenContributions
import ThemeOptions.Proofs.Offences
import ThemeOptions.Proofs.ObservedConflicts
import ThemeOptions.Proofs.SeparateOptions
import ThemeOptions.Builder
import ThemeOptions.Proofs.RegistrationOrder
import ThemeOptions.Proofs.RunningOrder
import ThemeOptions.Proofs.NumberTexts
import ThemeOptions.Proofs.SplicedFragments
import ThemeOptions.Proofs.LiveStylesheet
import ThemeOptions.Proofs.Rewording
import ThemeOptions.Proofs.FontDeclarations
import ThemeOptions.Proofs.FiniteFloats
import ThemeOptions.Proofs.WrittenNumbers
import ThemeOptions.Proofs.AddedTransform
import ThemeOptions.Proofs.FilteredDefaults
import ThemeOptions.Proofs.RegisteredTransforms
import ThemeOptions.Proofs.SchemaOrder
import ThemeOptions.Proofs.SuppliedDefaults
import ThemeOptions.Proofs.ChangedContributions
