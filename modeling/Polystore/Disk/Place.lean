/-!
# Places on a disk

A place is the text of a path, cut at its slashes.  The parts `.` and `..` stay
in it: where they lead is known only when the disk is looked at.  The slashes
are counted, because a file system refuses a path by the length of its text, and
a path may hold more slashes than it needs.
-/

namespace Polystore

/-- A part of a path, and the slashes before it. -/
structure PathPart where
  slashes : Nat
  text : String
deriving DecidableEq, Repr

/-- A place on a disk as it is written. -/
structure Place where
  /-- The parts between slashes, without the empty ones. -/
  written : List PathPart := []
  /-- The slashes after the last part. -/
  closing : Nat := 0
deriving DecidableEq, Repr

namespace Place

/-- The texts of the parts. -/
def parts (place : Place) : List String :=
  place.written.map PathPart.text

/-- Whether the text begins with a slash. -/
def absolute (place : Place) : Bool :=
  match place.written with
  | [] => place.closing ≠ 0
  | first :: _ => first.slashes ≠ 0

/-- Whether the text ends with a slash, so that the place must be a folder. -/
def slash (place : Place) : Bool :=
  place.closing ≠ 0

/-- The bytes of some parts. -/
def partsSize (parts : List PathPart) : Nat :=
  parts.foldr (fun part total => part.slashes + part.text.utf8ByteSize + total) 0

/-- The bytes of the text. -/
def size (place : Place) : Nat :=
  partsSize place.written + place.closing

/-- A place with a slash in front. -/
def afterSlash (place : Place) : Place :=
  match place.written with
  | [] => { place with closing := place.closing + 1 }
  | first :: rest =>
      { place with written := { first with slashes := first.slashes + 1 } :: rest }

/-- A place with a character in front that is no slash. -/
def afterChar (c : Char) (place : Place) : Place :=
  match place.written with
  | ⟨0, text⟩ :: rest => { place with written := ⟨0, String.singleton c ++ text⟩ :: rest }
  | written => { place with written := ⟨0, String.singleton c⟩ :: written }

/-- The place that some characters describe. -/
def ofChars : List Char → Place
  | [] => {}
  | c :: rest => if c = '/' then (ofChars rest).afterSlash else (ofChars rest).afterChar c

/-- The place that a text describes. -/
def ofText (text : String) : Place :=
  ofChars text.toList

/-- The slashes between a place and a name that is written behind it: those that
are there already, or one, but none behind the empty text. -/
def gap (place : Place) : Nat :=
  if place.closing ≠ 0 then place.closing else if place.written = [] then 0 else 1

/-- The place of a name in a place. -/
def append (place : Place) (name : String) : Place where
  written := place.written ++ [⟨place.gap, name⟩]

/-- The place of some names below a place. -/
def below (place : Place) (names : List String) : Place :=
  names.foldl append place

/-- Whether a part leads to the same folder or to the one above. -/
def isDots (part : String) : Bool :=
  part == "." || part == ".."

/-- The parts without those at the end that lead nowhere else, last one first. -/
def trimmed (reversed : List PathPart) : List PathPart :=
  reversed.dropWhile (·.text == ".")

/-- The place of some parts, last one first, without the single dots at the end.
Of single dots alone the slash or the dot that the text begins with is left. -/
def ofTrimmed (absolute : Bool) (reversed : List PathPart) : Place :=
  if trimmed reversed ≠ [] then { written := (trimmed reversed).reverse }
  else if absolute then { closing := 1 }
  else { written := reversed.reverse.take 1 }

/-- The place that a place is written in: all but the last part that is not a
single dot.  The root of the disk is in no other place. -/
def parent? (place : Place) : Option Place :=
  match trimmed place.written.reverse with
  | [] => if place.absolute ∨ place.written = [] then none else some {}
  | _ :: before => some (ofTrimmed place.absolute before)

/-! ## The text of a place -/

@[simp]
theorem partsSize_cons (part : PathPart) (parts : List PathPart) :
    partsSize (part :: parts) = part.slashes + part.text.utf8ByteSize + partsSize parts :=
  rfl

@[simp]
theorem partsSize_append (parts more : List PathPart) :
    partsSize (parts ++ more) = partsSize parts + partsSize more := by
  induction parts with
  | nil => exact (Nat.zero_add _).symm
  | cons part rest ih =>
      rw [List.cons_append, partsSize_cons, partsSize_cons, ih]
      exact (Nat.add_assoc _ _ _).symm

theorem size_afterSlash (place : Place) : place.afterSlash.size = place.size + 1 := by
  rcases place with ⟨_ | ⟨first, rest⟩, closing⟩
  · rfl
  · simp only [afterSlash, size, partsSize_cons]
    omega

theorem size_afterChar (c : Char) (place : Place) :
    (place.afterChar c).size = place.size + c.utf8Size := by
  rcases place with ⟨_ | ⟨⟨_ | slashes, text⟩, rest⟩, closing⟩
  · simp [afterChar, size]
    omega
  · simp [afterChar, size]
    omega
  · simp [afterChar, size]
    omega

/-- A place is as long as its text. -/
theorem size_ofText (text : String) : (ofText text).size = text.utf8ByteSize := by
  have size_ofChars (letters : List Char) :
      (ofChars letters).size = (String.ofList letters).utf8ByteSize := by
    induction letters with
    | nil => rfl
    | cons c rest ih =>
        have length : (String.ofList (c :: rest)).utf8ByteSize =
            c.utf8Size + (String.ofList rest).utf8ByteSize := by
          rw [← List.singleton_append, String.ofList_append, String.utf8ByteSize_append,
            ← String.singleton_eq_ofList, String.utf8ByteSize_singleton]
        rw [ofChars, length]
        split
        · next slash =>
          rw [size_afterSlash, ih, slash]
          exact Nat.add_comm _ _
        · rw [size_afterChar, ih, Nat.add_comm]
  rw [ofText, size_ofChars, String.ofList_toList]

/-- The text of an absolute place has a slash at least. -/
theorem size_pos_of_absolute {place : Place} (absolute : place.absolute = true) :
    0 < place.size := by
  rcases place with ⟨_ | ⟨first, rest⟩, closing⟩
  · exact Nat.lt_of_lt_of_le (Nat.pos_of_ne_zero (of_decide_eq_true absolute))
      (Nat.le_add_left _ _)
  · have led := Nat.pos_of_ne_zero (of_decide_eq_true absolute)
    simp only [size, partsSize_cons]
    omega

/-! ## Places below a place -/

theorem below_cons (place : Place) (name : String) (more : List String) :
    place.below (name :: more) = (place.append name).below more :=
  rfl

theorem below_append (place : Place) (names more : List String) :
    place.below (names ++ more) = (place.below names).below more :=
  List.foldl_append

@[simp]
theorem parts_append (place : Place) (name : String) :
    (place.append name).parts = place.parts ++ [name] := by
  simp [append, parts]

@[simp]
theorem parts_below (place : Place) (names : List String) :
    (place.below names).parts = place.parts ++ names := by
  induction names generalizing place with
  | nil => exact (List.append_nil _).symm
  | cons name more ih => rw [below_cons, ih, parts_append, List.append_assoc, List.singleton_append]

/-- Only the empty text begins otherwise once a name is written behind it. -/
theorem absolute_append (place : Place) (name : String) :
    (place.append name).absolute = place.absolute := by
  rcases place with ⟨_ | ⟨first, rest⟩, _ | closing⟩ <;> rfl

theorem absolute_below (place : Place) (names : List String) :
    (place.below names).absolute = place.absolute := by
  induction names generalizing place with
  | nil => rfl
  | cons name more ih => rw [below_cons, ih, absolute_append]

/-- A place that ends in a name does not end with a slash. -/
theorem slash_below {names : List String} (some : names ≠ []) (place : Place) :
    (place.below names).slash = false := by
  obtain ⟨front, last, rfl⟩ := List.eq_nil_or_concat names |>.resolve_left some
  rw [List.concat_eq_append, below_append]
  rfl

theorem size_append (place : Place) (name : String) :
    place.size + name.utf8ByteSize ≤ (place.append name).size ∧
      (place.append name).size ≤ place.size + name.utf8ByteSize + 1 := by
  have between : place.closing ≤ place.gap ∧ place.gap ≤ place.closing + 1 := by
    rw [gap]
    split
    · omega
    · split <;> omega
  have last : partsSize [⟨place.gap, name⟩] = place.gap + name.utf8ByteSize := Nat.add_zero _
  simp only [append, size, partsSize_append, last]
  omega

end Place

end Polystore
