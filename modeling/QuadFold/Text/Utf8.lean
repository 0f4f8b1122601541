/-! Where bytes stop being text in UTF-8. -/
namespace QuadFold.Text.Utf8

/-- The least and the greatest second byte after a first one, and how many bytes follow that one;
`none` if no longer character starts with this byte. -/
def second? (b : UInt8) : Option (UInt8 × UInt8 × Nat) :=
  if 0xc2 ≤ b ∧ b ≤ 0xdf then some (0x80, 0xbf, 0)
  else if b = 0xe0 then some (0xa0, 0xbf, 1)
  else if b = 0xed then some (0x80, 0x9f, 1)
  else if 0xe1 ≤ b ∧ b ≤ 0xef then some (0x80, 0xbf, 1)
  else if b = 0xf0 then some (0x90, 0xbf, 2)
  else if 0xf1 ≤ b ∧ b ≤ 0xf3 then some (0x80, 0xbf, 2)
  else if b = 0xf4 then some (0x80, 0x8f, 2)
  else none

/-- A place where no character can be read, and how many bytes begin one there before a byte that
does not fit; `none` if the bytes end before that. -/
structure Flaw where
  index : Nat
  length : Option Nat
  deriving DecidableEq, Repr

def Flaw.message (f : Flaw) : String :=
  let index := String.ofList (Nat.toDigits 10 f.index)
  match f.length with
  | some n =>
    "invalid utf-8 sequence of " ++ String.ofList (Nat.toDigits 10 n) ++ " bytes from index " ++ index
  | none => "incomplete utf-8 byte sequence from index " ++ index

/-- Where reading stands: between characters, or inside one that started at `first`, with `size` of
its bytes read, the bounds of the next one, and `owed` more after that. -/
inductive State
  | between
  | inside (first size : Nat) (least greatest : UInt8) (owed : Nat)
  deriving DecidableEq, Repr

/-- The first flaw of bytes from an index on. Text without one is incomplete at its very end. -/
def stop (index : Nat) : State → List UInt8 → Flaw
  | .between, [] => ⟨index, none⟩
  | .inside first _ _ _ _, [] => ⟨first, none⟩
  | .between, b :: rest =>
    if b < 0x80 then stop (index + 1) .between rest
    else match second? b with
      | some (least, greatest, owed) => stop (index + 1) (.inside index 1 least greatest owed) rest
      | none => ⟨index, some 1⟩
  | .inside first size least greatest owed, b :: rest =>
    if b < least ∨ greatest < b then ⟨first, some size⟩
    else match owed with
      | 0 => stop (index + 1) .between rest
      | owed + 1 => stop (index + 1) (.inside first (size + 1) 0x80 0xbf owed) rest

end QuadFold.Text.Utf8
