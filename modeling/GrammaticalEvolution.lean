import GrammaticalEvolution.Chromosome
import GrammaticalEvolution.Chromosome.Cursor
import GrammaticalEvolution.Decimal.Layout
import GrammaticalEvolution.Decimal.Literal
import GrammaticalEvolution.Decimal.Scaled
import GrammaticalEvolution.Decimal.Shortest
import GrammaticalEvolution.Demonstration
import GrammaticalEvolution.Derivation
import GrammaticalEvolution.ErrorText
import GrammaticalEvolution.Evaluation
import GrammaticalEvolution.Evolution
import GrammaticalEvolution.Expression
import GrammaticalEvolution.Expression.Display
import GrammaticalEvolution.Grammar
import GrammaticalEvolution.Grammar.Symbols
import GrammaticalEvolution.Individual
import GrammaticalEvolution.Journal
import GrammaticalEvolution.Journal.Filter
import GrammaticalEvolution.Json.Lines
import GrammaticalEvolution.Json.Number
import GrammaticalEvolution.Json.Reader
import GrammaticalEvolution.Json.Writer
import GrammaticalEvolution.Main
import GrammaticalEvolution.Operation
import GrammaticalEvolution.Operation.Arithmetic
import GrammaticalEvolution.Operation.Table
import GrammaticalEvolution.Population
import GrammaticalEvolution.Population.Breeding
import GrammaticalEvolution.Random.Scripted
import GrammaticalEvolution.Random.Seeded
import GrammaticalEvolution.Random.Source
import GrammaticalEvolution.SemanticMapper
import GrammaticalEvolution.Settings
import GrammaticalEvolution.Settings.Environment
import GrammaticalEvolution.Settings.Fields
import GrammaticalEvolution.Settings.Path
import GrammaticalEvolution.Settings.Store
import GrammaticalEvolution.Settings.Value
import GrammaticalEvolution.Text.Blank
import GrammaticalEvolution.Text.CharSet
import GrammaticalEvolution.Text.Glyph
import GrammaticalEvolution.Text.Hex
import GrammaticalEvolution.Text.Pattern
import GrammaticalEvolution.Text.Pattern.Reader
import GrammaticalEvolution.Text.Quoted
import GrammaticalEvolution.Toml.Document
import GrammaticalEvolution.Toml.Quoted
import GrammaticalEvolution.Toml.Scalar
import GrammaticalEvolution.Toml.Table
import GrammaticalEvolution.Tournament
import GrammaticalEvolution.Proofs.CyclicReading
import GrammaticalEvolution.Proofs.LeftmostRewriting
import GrammaticalEvolution.Proofs.GuidedDerivation
import GrammaticalEvolution.Proofs.Draws
import GrammaticalEvolution.Proofs.FloatOrder
import GrammaticalEvolution.Proofs.Population.Breeding
import GrammaticalEvolution.Proofs.Population.Calls
import GrammaticalEvolution.Proofs.Population.Shape
import GrammaticalEvolution.Proofs.Population.Memo
import GrammaticalEvolution.Proofs.EvolutionRun
import GrammaticalEvolution.Proofs.Population.Elitism
import GrammaticalEvolution.Proofs.EvaluationDepth
import GrammaticalEvolution.Proofs.Rates
import GrammaticalEvolution.Proofs.Population.Mating
import GrammaticalEvolution.Proofs.Population.Failure
import GrammaticalEvolution.Proofs.Population.FitnessOrder
import GrammaticalEvolution.Proofs.AcceptedSettings
import GrammaticalEvolution.Proofs.DerivedTrees
import GrammaticalEvolution.Proofs.DerivationBounds
import GrammaticalEvolution.Proofs.GenesRead
import GrammaticalEvolution.Proofs.FreeDerivations
import GrammaticalEvolution.Proofs.DerivedLanguages
import GrammaticalEvolution.Proofs.DigitTerms
import GrammaticalEvolution.Proofs.FloatModel
import GrammaticalEvolution.Proofs.FloatSigns
import GrammaticalEvolution.Proofs.IntegerFloats
import GrammaticalEvolution.Proofs.ExactArithmetic
import GrammaticalEvolution.Proofs.Population.BestScan
import GrammaticalEvolution.Proofs.Population.Inheritance
import GrammaticalEvolution.Proofs.Population.Winners
import GrammaticalEvolution.Proofs.Population.Leader
import GrammaticalEvolution.Proofs.DecimalTexts
import GrammaticalEvolution.Proofs.Json.Numbers
import GrammaticalEvolution.Proofs.Json.RoundTrip
import GrammaticalEvolution.Proofs.Json.Strings
import GrammaticalEvolution.Proofs.Json.Leaves
import GrammaticalEvolution.Proofs.VariableSubstitution
import GrammaticalEvolution.Proofs.Population.GenePool
import GrammaticalEvolution.Proofs.FloatPacking
import GrammaticalEvolution.Proofs.FloatRounding
import GrammaticalEvolution.Proofs.FloatQuotients
import GrammaticalEvolution.Proofs.IntegerDivision
import GrammaticalEvolution.Proofs.DecimalRounding
import GrammaticalEvolution.Proofs.ShortestDigits
import GrammaticalEvolution.Proofs.Toml.Numbers
import GrammaticalEvolution.Proofs.Toml.Documents
import GrammaticalEvolution.Proofs.SettingsLayers
import GrammaticalEvolution.Proofs.SettingsRoundTrip
import GrammaticalEvolution.Proofs.NamesInUse
import GrammaticalEvolution.Proofs.WiderLimits
import GrammaticalEvolution.Proofs.Population.Statistics
import GrammaticalEvolution.Proofs.RunCourse
import GrammaticalEvolution.Proofs.RunsInTurn
import GrammaticalEvolution.Proofs.MutationMask
import GrammaticalEvolution.Proofs.Json.Lines
import GrammaticalEvolution.Proofs.PlacesRead
import GrammaticalEvolution.Proofs.TailExchange
import GrammaticalEvolution.Proofs.StoreCalls
