/-!
# Texts by bytes

Offsets in a text count bytes, and a character takes up one to four of them. A text can be cut
between two characters only: an offset beyond its end or inside a character is no place to cut.

* `byteCount` is the length of a text in bytes, `lastByte?` the offset of its last byte.
* `offsetOf?` is the offset of the first occurrence of a character.
* `cutAt?` cuts a text at an offset, `slice?` gives the piece between two offsets.
-/

namespace Introspect.Text

/-- How many bytes a text takes up. -/
def byteCount : List Char → Nat
  | [] => 0
  | c :: rest => c.utf8Size + byteCount rest

/-- The offset of the last byte; an empty text has none. -/
def lastByte? (text : List Char) : Option Nat :=
  if byteCount text = 0 then none else some (byteCount text - 1)

/-- The offset of the first occurrence of a character. -/
def offsetOf? (mark : Char) : List Char → Option Nat
  | [] => none
  | c :: rest => if c = mark then some 0 else (offsetOf? mark rest).map (c.utf8Size + ·)

/-- What stands before an offset, and what stands from there on. -/
def cutAt? : Nat → List Char → Option (List Char × List Char)
  | 0, text => some ([], text)
  | _ + 1, [] => none
  | offset + 1, c :: rest =>
    if c.utf8Size ≤ offset + 1 then
      (cutAt? (offset + 1 - c.utf8Size) rest).map fun (before, after) => (c :: before, after)
    else none

/-- The piece from one offset to another, which must not be smaller. -/
def slice? (start stop : Nat) (text : List Char) : Option (List Char) :=
  if start ≤ stop then
    (cutAt? stop text).bind fun parts => (cutAt? start parts.1).map Prod.snd
  else none

@[simp] theorem byteCount_nil : byteCount [] = 0 := rfl

@[simp] theorem byteCount_cons (c : Char) (text : List Char) :
    byteCount (c :: text) = c.utf8Size + byteCount text := rfl

@[simp] theorem byteCount_append (before after : List Char) :
    byteCount (before ++ after) = byteCount before + byteCount after := by
  induction before with
  | nil => exact (Nat.zero_add _).symm
  | cons c rest ih => rw [List.cons_append, byteCount_cons, byteCount_cons, ih, Nat.add_assoc]

/-- The parts that a text is cut into make it up. -/
theorem eq_append_of_cutAt? {offset : Nat} {text before after : List Char}
    (h : cutAt? offset text = some (before, after)) :
    text = before ++ after ∧ byteCount before = offset := by
  fun_induction cutAt? offset text generalizing before with
  | case1 => cases h; exact ⟨rfl, rfl⟩
  | case2 => cases h
  | case3 offset c rest hFits ih =>
    obtain ⟨⟨inner, outer⟩, hInner, hParts⟩ := Option.map_eq_some_iff.mp h
    cases hParts
    obtain ⟨rfl, hBytes⟩ := ih hInner
    refine ⟨rfl, ?_⟩
    rw [byteCount_cons, hBytes]
    omega
  | case4 => cases h

/-- A piece stands in its text where its offset says. -/
theorem exists_append_of_slice? {start stop : Nat} {text piece : List Char}
    (h : slice? start stop text = some piece) :
    ∃ before after, text = before ++ piece ++ after ∧ byteCount before = start := by
  unfold slice? at h
  split at h
  · obtain ⟨⟨front, after⟩, hFront, hRest⟩ := Option.bind_eq_some_iff.mp h
    obtain ⟨⟨before, last⟩, hBefore, rfl⟩ := Option.map_eq_some_iff.mp hRest
    obtain ⟨rfl, -⟩ := eq_append_of_cutAt? hFront
    obtain ⟨rfl, hBytes⟩ := eq_append_of_cutAt? hBefore
    exact ⟨before, after, rfl, hBytes⟩
  · cases h

/-- A piece that does not begin where the text begins is shorter. -/
theorem length_lt_of_slice? {start stop : Nat} {text piece : List Char}
    (h : slice? (start + 1) stop text = some piece) : piece.length < text.length := by
  obtain ⟨before, after, rfl, hBytes⟩ := exists_append_of_slice? h
  cases before with
  | nil => cases hBytes
  | cons c before =>
    simp only [List.length_append, List.length_cons]
    omega

end Introspect.Text
