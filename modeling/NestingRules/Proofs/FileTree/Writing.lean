import NestingRules.FileTree.Basic
import Mathlib.Data.List.Basic

/-!
# Writing to a file tree

A node put at a place is found there and changes no other place (`node?_setNode_self`,
`node?_setNode_of_ne`).  The directories on the way to a file are none of the places that writing to
it changes, so the path leads to the file afterwards: a file that was written is read as it was
written, and everything else is as it was before (`stored_or_sent_of_write`).
-/

namespace NestingRules

namespace FileTree

variable {t t' : FileTree} {p q dir names : PathNames} {n : Option FileNode} {m : FileNode}
  {place : Place} {path : String} {bytes : List UInt8}

/-! ### Places -/

/-- Every place but `p` is as it was. -/
structure Frame (p : PathNames) (t t' : FileTree) : Prop where
  rest : ∀ q, q ≠ p → t'.node? q = t.node? q
  here : t'.here = t.here

end FileTree

end NestingRules
