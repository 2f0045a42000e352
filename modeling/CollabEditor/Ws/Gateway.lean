import CollabEditor.Library.PercentEncoding
import CollabEditor.Library.Regex
import Mathlib.Data.List.TakeWhile

/-!
Owns `documentIdFrom` of `ws/gateway.ts`: which document an upgrade request is
for, and the ids there are.
-/

set_option autoImplicit false

namespace CollabEditor.Ws

open CollabEditor.Library

/-- `[A-Za-z0-9_-]`. -/
def isIdChar (char : Char) : Bool := char.isAlphanum || char = '_' || char = '-'

def isIdUnit (unit : UInt16) : Bool := isIdChar (Char.ofNat unit.toNat)

/-- `([A-Za-z0-9_-]{1,64})` after some text and before the rest of a pattern. -/
def idAfter (lead : String) (tail : Regex UInt16) : Regex UInt16 :=
  .seq (.text (Utf16.encode lead.toList)) (.seq (.group 1 (.many isIdUnit 1 64)) tail)

/-- `/^\/doc\/([A-Za-z0-9_-]{1,64})$/`. -/
def DOCUMENT_PATH : Regex UInt16 := .seq .start (idAfter "/doc/" .finish)

/-- `documentIdFrom`; `none` for `undefined`. -/
def documentIdFrom (url : Option JsString) : Option JsString :=
  url.bind fun url =>
    if url = [] then none
    else
      let path := url.takeWhile fun unit => unit ≠ 0x3F
      (DOCUMENT_PATH.exec path).bind fun found => found.captures 1

/-! ### Ids -/

/-- What the pattern of an id matches. -/
structure IsId (id : JsString) : Prop where
  units : ∀ unit ∈ id, isIdUnit unit = true
  nonempty : 1 ≤ id.length
  short : id.length ≤ 64

theorem isUnreserved_of_isIdChar {char : Char} (isId : isIdChar char = true) :
    PercentEncoding.isUnreserved char = true := by
  simp only [isIdChar, Bool.or_eq_true, decide_eq_true_eq] at isId
  rw [PercentEncoding.isUnreserved, Bool.or_eq_true, decide_eq_true_eq]
  rcases isId with (letter | rfl) | rfl
  · exact Or.inl letter
  · exact Or.inr (by decide)
  · exact Or.inr (by decide)

private theorem isIdChar_small {char : Char} (isId : isIdChar char = true) : char.toNat < 0x80 :=
  (PercentEncoding.isUnreserved_code (isUnreserved_of_isIdChar isId)).1

/-- What holds of the characters of ASCII holds of those of an id. -/
theorem forall_isIdChar {holds : Char → Prop}
    (ascii : ∀ code < 0x80, isIdChar (Char.ofNat code) = true → holds (Char.ofNat code))
    {char : Char} (isId : isIdChar char = true) : holds char := by
  have same := Char.ofNat_toNat char
  rw [← same] at isId ⊢
  exact ascii char.toNat (isIdChar_small (same ▸ isId)) isId

theorem isIdUnit_small {unit : UInt16} (isId : isIdUnit unit = true) : unit.toNat < 0x80 := by
  by_cases valid : unit.toNat.isValidChar
  · have small := isIdChar_small isId
    rwa [Utf16.toNat_char valid] at small
  · have nothing : Char.ofNat unit.toNat = '\x00' := by
      rw [Char.ofNat, dif_neg valid]
      rfl
    rw [isIdUnit, nothing] at isId
    exact absurd isId (by decide)

/-- The characters of an id. -/
theorem IsId.chars {id : JsString} (isId : IsId id) :
    ∃ chars, Utf16.encode chars = id ∧ (∀ char ∈ chars, isIdChar char = true) ∧ chars ≠ [] := by
  refine ⟨id.map fun unit => Char.ofNat unit.toNat, ?_, fun char member => ?_, ?_⟩
  · have units := isId.units
    clear isId
    induction id with
    | nil => rfl
    | cons unit rest inductionHypothesis =>
        obtain ⟨first, others⟩ := List.forall_mem_cons.mp units
        have small := isIdUnit_small first
        have notHigh : Utf16.isHigh unit = false := by
          rw [Utf16.isHigh, decide_eq_false_iff_not]
          omega
        have notLow : Utf16.isLow unit = false := by
          rw [Utf16.isLow, decide_eq_false_iff_not]
          omega
        show Utf16.units (Char.ofNat unit.toNat) ++ Utf16.encode _ = _
        rw [Utf16.units_single notHigh notLow, inductionHypothesis others]
        rfl
  · obtain ⟨unit, among, rfl⟩ := List.mem_map.mp member
    exact isId.units unit among
  · intro empty
    have nonempty := isId.nonempty
    rw [List.map_eq_nil_iff.mp empty] at nonempty
    cases nonempty

/-! ### What the patterns match -/

theorem matches_idAfter {lead : String} {tail : Regex UInt16} {place ended : Place UInt16}
    (isMatch : (idAfter lead tail).Matches place ended) :
    ∃ id rest middle, IsId id ∧ place.rest = Utf16.encode lead.toList ++ (id ++ rest) ∧
      middle.rest = rest ∧ middle.captures 1 = some id ∧ tail.Matches middle ended := by
  obtain ⟨_, ⟨afterLead, begins, rfl⟩, _, ⟨within, ⟨id, rest, splits, units, above, below, rfl⟩,
    rfl⟩, isTail⟩ := isMatch
  refine ⟨id, rest, _, ⟨units, above, below⟩, ?_, ?_, ?_, isTail⟩
  · rw [begins]
    exact congrArg _ splits
  · rfl
  · exact congrArg some List.drop_left

theorem idAfter_matches {lead : String} {tail : Regex UInt16} {id before rest : JsString}
    (isId : IsId id) {captures : ℕ → Option JsString}
    (isTail : ∀ middle : Place UInt16, middle.rest = rest → ∃ ended, tail.Matches middle ended) :
    ∃ ended, (idAfter lead tail).Matches
      ⟨before, Utf16.encode lead.toList ++ (id ++ rest), captures⟩ ended := by
  let opened : Place UInt16 := ⟨before ++ Utf16.encode lead.toList, id ++ rest, captures⟩
  obtain ⟨ended, isMatch⟩ := isTail (opened.capture (opened.past id rest) 1) rfl
  exact ⟨ended, opened, ⟨id ++ rest, rfl, rfl⟩, _, ⟨opened.past id rest,
    ⟨id, rest, rfl, isId.units, isId.nonempty, isId.short, rfl⟩, rfl⟩, isMatch⟩

private theorem documentPath_of_exec {path : JsString} {found : Place UInt16}
    (executes : DOCUMENT_PATH.exec path = some found) :
    ∃ id, found.captures 1 = some id ∧ path = Utf16.encode "/doc/".toList ++ id ∧ IsId id := by
  obtain ⟨skipped, later, rfl, _, ⟨atStart, rfl⟩, isMatch⟩ := Regex.exec_sound executes
  obtain ⟨id, rest, middle, isId, splits, rfl, captured, atEnd, rfl⟩ := matches_idAfter isMatch
  obtain rfl : skipped = [] := atStart
  have splits : later = Utf16.encode "/doc/".toList ++ (id ++ found.rest) := splits
  refine ⟨id, captured, ?_, isId⟩
  rw [List.nil_append, splits, atEnd, List.append_nil]

theorem isIdUnit_ne {unit other : UInt16} (isId : isIdUnit unit = true)
    (excluded : isIdUnit other = false) : unit ≠ other := by
  rintro rfl
  exact Bool.false_ne_true (excluded.symm.trans isId)

/-- The route of a document takes its id. -/
theorem documentIdFrom_of_isId {id : JsString} (isId : IsId id) :
    documentIdFrom (some (Utf16.encode "/doc/".toList ++ id)) = some id := by
  have noQuery : (Utf16.encode "/doc/".toList ++ id).takeWhile (fun unit => unit ≠ 0x3F) =
      Utf16.encode "/doc/".toList ++ id := by
    have lead : ((Utf16.encode "/doc/".toList).all fun unit => unit ≠ 0x3F) = true := by decide
    refine List.takeWhile_eq_self_iff.mpr fun unit member => ?_
    rcases List.mem_append.mp member with inLead | inId
    · exact List.all_eq_true.mp lead unit inLead
    · exact decide_eq_true (isIdUnit_ne (isId.units unit inId) (by decide))
  have nonempty : Utf16.encode "/doc/".toList ++ id ≠ [] :=
    List.append_ne_nil_of_left_ne_nil (by decide) id
  obtain ⟨ended, isMatch⟩ := @idAfter_matches "/doc/" .finish id [] [] isId (fun _ => none)
    fun middle atEnd => ⟨middle, atEnd, rfl⟩
  rw [List.append_nil] at isMatch
  have executes : (DOCUMENT_PATH.exec ([] ++ (Utf16.encode "/doc/".toList ++ id))).isSome :=
    Regex.exec_complete ⟨_, ⟨rfl, rfl⟩, isMatch⟩
  obtain ⟨found, executes⟩ := Option.isSome_iff_exists.mp executes
  obtain ⟨other, captured, same, -⟩ := documentPath_of_exec executes
  rw [List.nil_append] at executes same
  rw [documentIdFrom, Option.bind_some, if_neg nonempty, noQuery]
  dsimp only
  rw [executes, Option.bind_some, captured, List.append_cancel_left same]

/-- What the route takes is an id. -/
theorem isId_of_documentIdFrom {url : Option JsString} {id : JsString}
    (accepted : documentIdFrom url = some id) : IsId id := by
  obtain ⟨url, -, taken⟩ := Option.bind_eq_some_iff.mp accepted
  obtain ⟨-, executed⟩ := Option.ite_none_left_eq_some.mp taken
  obtain ⟨found, executes, captured⟩ := Option.bind_eq_some_iff.mp executed
  obtain ⟨other, captured', -, isId⟩ := documentPath_of_exec executes
  rwa [Option.some.inj (captured.symm.trans captured')]

end CollabEditor.Ws
