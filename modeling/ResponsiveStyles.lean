import ResponsiveStyles.Instances
import ResponsiveStyles.Main
import ResponsiveStyles.Proofs.BucketWidths
import ResponsiveStyles.Proofs.CanonicalForm
import ResponsiveStyles.Proofs.CompilationHistory
import ResponsiveStyles.Proofs.MarkupAnnotation
import ResponsiveStyles.Proofs.NameQueries
import ResponsiveStyles.Proofs.RegistryHistory
import ResponsiveStyles.Proofs.WidthBounds
import ResponsiveStyles.Proofs.KeyFragments
import ResponsiveStyles.Proofs.KeyReading
import ResponsiveStyles.Proofs.TokenSynonyms
import ResponsiveStyles.Proofs.EnclosedColons
import ResponsiveStyles.Proofs.HashedTexts
import ResponsiveStyles.Proofs.StyleHistory
import ResponsiveStyles.Proofs.AttributePattern
import ResponsiveStyles.Proofs.InstanceHistory
import ResponsiveStyles.Proofs.MarkerRules
import ResponsiveStyles.Proofs.AttributeRemoval
import ResponsiveStyles.Proofs.JoinedKeys
import ResponsiveStyles.Proofs.JsonRoundTrip
import ResponsiveStyles.Proofs.StylesheetDefinition
import ResponsiveStyles.Proofs.MarkupLines
import ResponsiveStyles.Proofs.MarkerNames
import ResponsiveStyles.Proofs.PaddedKeys
import ResponsiveStyles.Proofs.DegradedBranches
import ResponsiveStyles.Proofs.PropertyPattern
import ResponsiveStyles.Proofs.StylesheetDeclarations
import ResponsiveStyles.Proofs.BrowserFingerprint
import ResponsiveStyles.Proofs.FingerprintFibres
import ResponsiveStyles.Proofs.StoredForms
import ResponsiveStyles.Proofs.QuotedValues
import ResponsiveStyles.Proofs.StylesheetLines
import ResponsiveStyles.Proofs.DescriptorHistory
import ResponsiveStyles.Proofs.TableOrder
import ResponsiveStyles.Proofs.EmptyBranches
import ResponsiveStyles.Proofs.FeatureCalls
import ResponsiveStyles.Proofs.LiteralLengths
import ResponsiveStyles.Proofs.DefinitionFaults
import ResponsiveStyles.Proofs.AdjustedLengths
