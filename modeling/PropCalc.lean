import PropCalc.Journal
import PropCalc.Formula.Var
import PropCalc.Formula.Connective
import PropCalc.Formula.Basic
import PropCalc.Formula.Layout
import PropCalc.Formula.Render
import PropCalc.Formula.Memo
import PropCalc.Formula.Evaluate
import PropCalc.Unicode.Ranges
import PropCalc.Unicode.Printable
import PropCalc.Unicode.Classes
import PropCalc.Text.Quote
import PropCalc.Syntax.Token
import PropCalc.Syntax.Lexer
import PropCalc.Syntax.Grammar
import PropCalc.Table
import PropCalc.Analysis.NormalForm
import PropCalc.Analysis.Zhegalkin
import PropCalc.Analysis.Implicant
import PropCalc.Analysis.QuineMcCluskey
import PropCalc.Calculator
import PropCalc.Dot
import PropCalc.Combinator.Datum
import PropCalc.Decimal.Shortest
import PropCalc.Combinator.Datum.Text
import PropCalc.Combinator.Rule
import PropCalc.Unicode.Category
import PropCalc.Unicode.Script
import PropCalc.Unicode.Fold
import PropCalc.Unicode.Letter
import PropCalc.Unicode.ScriptExtension
import PropCalc.Unicode.Binary
import PropCalc.Unicode.PropertyName
import PropCalc.Unicode.Age
import PropCalc.Unicode.Segmentation
import PropCalc.Pattern.CharSet
import PropCalc.Pattern.Regex
import PropCalc.Pattern.Flags
import PropCalc.Pattern.Property
import PropCalc.Pattern.Escape
import PropCalc.Pattern.Bracket
import PropCalc.Pattern.Parse
import PropCalc.Pattern.Utf8
import PropCalc.Pattern.Footprint
import PropCalc.Pattern.Machine
import PropCalc.Syntax.PatternLexer
import PropCalc.Cli.Similarity
import PropCalc.Cli.Options
import PropCalc.Cli.Scratch
import PropCalc.Cli.Report
import PropCalc.Main
import PropCalc.Proofs.Semantics
import PropCalc.Proofs.Lexing
import PropCalc.Proofs.MaximalMunch
import PropCalc.Proofs.Derivation
import PropCalc.Proofs.ParseErrors
import PropCalc.Proofs.RoundTrip
import PropCalc.Proofs.Tables
import PropCalc.Proofs.PrimeImplicants
import PropCalc.Proofs.Minimization
import PropCalc.Proofs.Transform
import PropCalc.Proofs.Polynomial
import PropCalc.Proofs.NormalForms
import PropCalc.Proofs.Triangle
import PropCalc.Proofs.Arena
import PropCalc.Proofs.Parentheses
import PropCalc.Proofs.Evaluation
import PropCalc.Proofs.Constancy
import PropCalc.Proofs.Memoization
import PropCalc.Proofs.Enumeration
import PropCalc.Proofs.Columns
import PropCalc.Proofs.Idempotence
import PropCalc.Proofs.RoundBound
import PropCalc.Proofs.Catamorphism
import PropCalc.Proofs.VariableMemo
import PropCalc.Proofs.RuleTermination
