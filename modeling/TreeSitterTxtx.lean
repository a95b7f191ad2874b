import TreeSitterTxtx.Symbol
import TreeSitterTxtx.Lexer
import TreeSitterTxtx.ParseTable
import TreeSitterTxtx.Driver
import TreeSitterTxtx.Run
import TreeSitterTxtx.LexerFacts
import TreeSitterTxtx.Tree
import TreeSitterTxtx.Grammar
import TreeSitterTxtx.Automaton
import TreeSitterTxtx.Stack
import TreeSitterTxtx.Soundness
import TreeSitterTxtx.Shape
import TreeSitterTxtx.Termination
import TreeSitterTxtx.Content
import TreeSitterTxtx.Comments
import TreeSitterTxtx.Identifiers
import TreeSitterTxtx.References
import TreeSitterTxtx.LongestMatch
import TreeSitterTxtx.Numbers
import TreeSitterTxtx.Cover
import TreeSitterTxtx.Simulation
import TreeSitterTxtx.Transparency
import TreeSitterTxtx.Strings
import TreeSitterTxtx.MaximalMunch
import TreeSitterTxtx.Declarations
