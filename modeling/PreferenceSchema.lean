import PreferenceSchema.Text.Blank
import PreferenceSchema.Text.Camel
import PreferenceSchema.Text.Case
import PreferenceSchema.Text.Display
import PreferenceSchema.Text.Grapheme
import PreferenceSchema.Text.Identifier
import PreferenceSchema.Text.Quoted
import PreferenceSchema.Text.Segment
import PreferenceSchema.Text.Similarity
import PreferenceSchema.Number.Numeral
import PreferenceSchema.Number.Decimal
import PreferenceSchema.Number.BinaryFloat
import PreferenceSchema.NameMap
import PreferenceSchema.TypeName
import PreferenceSchema.SemanticType
import PreferenceSchema.Naming
import PreferenceSchema.Declaration
import PreferenceSchema.DefaultValue
import PreferenceSchema.SchemaError
import PreferenceSchema.Event
import PreferenceSchema.Traced
import PreferenceSchema.KeyField
import PreferenceSchema.AccessorFunction
import PreferenceSchema.EntitySchema
import PreferenceSchema.ComponentSchema
import PreferenceSchema.InjectionPlan
import PreferenceSchema.AccessorPlan
import PreferenceSchema.GenerationPlan
import PreferenceSchema.Json
import PreferenceSchema.Serialization
import PreferenceSchema.Source.Token
import PreferenceSchema.Source.Lexer
import PreferenceSchema.Source.Literal
import PreferenceSchema.Source.Tree
import PreferenceSchema.Source.Lookahead
import PreferenceSchema.Source.Parser
import PreferenceSchema.Source.Reading
import PreferenceSchema.Source.Descriptor
import PreferenceSchema.Source.AttributeError
import PreferenceSchema.Source.Options
import PreferenceSchema.Source.Members
import PreferenceSchema.Source.SourceDeclarations
import PreferenceSchema.Source.Harvest
import PreferenceSchema.Source.SourceText
import PreferenceSchema.Proofs.Traversal
import PreferenceSchema.Proofs.Numerals
import PreferenceSchema.Proofs.Decimals
import PreferenceSchema.Proofs.BinaryFloats
import PreferenceSchema.Proofs.Collection
import PreferenceSchema.Proofs.KeyResolution
import PreferenceSchema.Proofs.KeyTable
import PreferenceSchema.Proofs.ReservedNames
import PreferenceSchema.Proofs.CustomAccessors
import PreferenceSchema.Proofs.TextPieces
import PreferenceSchema.Proofs.EntityConstruction
import PreferenceSchema.Proofs.AccessorNames
import PreferenceSchema.Proofs.OverrideRouting
import PreferenceSchema.Proofs.Injection
import PreferenceSchema.Proofs.StorageNames
import PreferenceSchema.Proofs.Pass
import PreferenceSchema.Proofs.EntityReferences
import PreferenceSchema.Proofs.TypeCoherence
import PreferenceSchema.Proofs.SchemaInvariant
import PreferenceSchema.Proofs.TypeNames
import PreferenceSchema.Proofs.ReferableNames
import PreferenceSchema.Proofs.SpacedNames
import PreferenceSchema.Proofs.InjectorClasses
import PreferenceSchema.Proofs.QualifiedTargets
import PreferenceSchema.Proofs.TokenText
import PreferenceSchema.Proofs.SourceMembers
import PreferenceSchema.Proofs.TypeDescriptors
import PreferenceSchema.Proofs.SourceClasses
import PreferenceSchema.Proofs.JoinedPasses
import PreferenceSchema.Proofs.AttributeFaults
import PreferenceSchema.Proofs.PassOrder
import PreferenceSchema.Proofs.SplitFiles
import PreferenceSchema.Proofs.MalformedAttributes
import PreferenceSchema.Proofs.FaultBalance
import PreferenceSchema.Proofs.AttributeReports
import PreferenceSchema.Proofs.QuotedText
import PreferenceSchema.Proofs.DefaultLiterals
import PreferenceSchema.Proofs.GetterStatements
import PreferenceSchema.Proofs.StatementLiterals
import PreferenceSchema.Proofs.AccessorTags
import PreferenceSchema.Proofs.ParserForms
import PreferenceSchema.Proofs.OptionForms
import PreferenceSchema.Proofs.SourceWords
import PreferenceSchema.Proofs.ComponentOptions
import PreferenceSchema.Proofs.ComponentExtraction
import PreferenceSchema.Proofs.OptionReading
import PreferenceSchema.Proofs.FractionTexts
import PreferenceSchema.Proofs.NumberTokens
import PreferenceSchema.Proofs.DefaultDenotations
import PreferenceSchema.Proofs.FieldDefaults
import PreferenceSchema.Proofs.ModulePackages
import PreferenceSchema.Proofs.JsonEquality
import PreferenceSchema.Proofs.SerializedPlans
import PreferenceSchema.Proofs.LowerCase
import PreferenceSchema.Proofs.SetterParameters
import PreferenceSchema.Proofs.FieldKeys
import PreferenceSchema.Proofs.PlainIdentifiers
import PreferenceSchema.Proofs.PlannedNames
import PreferenceSchema.Proofs.StorageClasses
import PreferenceSchema.Proofs.ForeignImplementations
import PreferenceSchema.Proofs.ImplementationPlaces
import PreferenceSchema.Proofs.GenericTargets
import PreferenceSchema.Proofs.InjectedFields
import PreferenceSchema.Proofs.InjectedTypes
import PreferenceSchema.Proofs.AddedMethods
import PreferenceSchema.Proofs.KeyReferences
import PreferenceSchema.Proofs.DividedOptions
import PreferenceSchema.Proofs.AddedAccessors
import PreferenceSchema.Proofs.WholeNumbers
import PreferenceSchema.Proofs.Warnings
import PreferenceSchema.Proofs.GroupedTypes
import PreferenceSchema.Proofs.GroupedDefaults
