import Mathlib.Order.Basic

/-! Writers with an out parameter, and readers of what they write.  The out parameter may hold an
older text, which a writer that returns early leaves as it is. -/

set_option autoImplicit false

namespace Edm.Library

/-- `serialize` gives the return value and the text after the call, `deserialize` the value that a
fresh object has after a call that succeeds, and `meant` the value that a value stands for. -/
structure OutCodec (α : Type) where
  serialize : α → String → Bool × String
  deserialize : String → Option α
  meant : α → α

namespace OutCodec

variable {α : Type} {codec : OutCodec α} {v : α} {old text : String}

/-- A text that is already read as the value. -/
def Holds (codec : OutCodec α) (v : α) (old : String) : Prop :=
  codec.deserialize old = some (codec.meant v)

end OutCodec

end Edm.Library
