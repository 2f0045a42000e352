import CollabEditor.Library.RejectionSampling
import CollabEditor.Web.RoomIds
import Mathlib.Data.Set.Card

/-!
Owns how likely a room id is: the ids that `createRoomId` makes are as many as
its comment says, and none of them is made in more ways than another.

Assumes that `crypto.getRandomValues` returns all bytes alike, so that counting
draws is enough.
-/

set_option autoImplicit false

namespace CollabEditor.Web

open CollabEditor.Library

/-! ### What the bytes stand for -/

/-- The character that a byte stands for; `none` when it is skipped. -/
def letterOf (byte : UInt8) : Option UInt16 :=
  if byte.toNat < limit then some (ALPHABET.getD (byte.toNat % ALPHABET.length) 0) else none

private theorem picked_eq_filterMap (bytes : List UInt8) :
    picked bytes = bytes.filterMap letterOf := by
  induction bytes with
  | nil => rfl
  | cons byte rest inductionHypothesis =>
      unfold picked at inductionHypothesis ⊢
      rw [List.filterMap_cons, ← inductionHypothesis, letterOf]
      by_cases below : byte.toNat < limit
      · rw [List.filter_cons_of_pos (by simpa using below), if_pos below]
        rfl
      · rw [List.filter_cons_of_neg (by simpa using below), if_neg below]

/-- The bytes are the numbers below 256. -/
def byteEquiv : Fin 256 ≃ UInt8 where
  toFun := UInt8.ofFin
  invFun := UInt8.toFin
  left_inv _ := rfl
  right_inv := UInt8.ofFin_toFin

instance finite_byte : Finite UInt8 := Finite.of_equiv (Fin 256) byteEquiv

private theorem card_byte : Nat.card UInt8 = 256 := by
  rw [← Nat.card_congr byteEquiv, Nat.card_eq_fintype_card, Fintype.card_fin]

/-- Each character of the alphabet has eight bytes. -/
theorem share_letter {unit : UInt16} (member : unit ∈ ALPHABET) :
    RejectionSampling.share letterOf (some unit) = 8 := by
  have each : ALPHABET.all (fun unit => Fintype.card
      { number : Fin 256 // letterOf (byteEquiv number) = some unit } == 8) = true := by
    decide +kernel
  have eight := List.all_eq_true.mp each unit member
  rw [beq_iff_eq, ← Nat.card_eq_fintype_card] at eight
  rw [← eight]
  exact Nat.card_congr (byteEquiv.subtypeEquiv fun number => Iff.rfl).symm

/-! ### The characters of an id -/

/-- The id of some characters, by their places in the alphabet. -/
def code (places : Fin (GROUPS * GROUP_SIZE) → Fin ALPHABET.length) : JsString :=
  grouped (List.ofFn fun index => ALPHABET.get (places index))

private theorem grouped_injective {chars others : JsString} (length : chars.length = 12)
    (length' : others.length = 12) (same : grouped chars = grouped others) : chars = others := by
  match chars, length with
  | [a, b, c, d, e, f, g, h, i, j, k, l], _ =>
      match others, length' with
      | [a', b', c', d', e', f', g', h', i', j', k', l'], _ =>
          have written : [a, b, c, d, 0x2D, e, f, g, h, 0x2D, i, j, k, l] =
              [a', b', c', d', 0x2D, e', f', g', h', 0x2D, i', j', k', l'] := same
          simpa using written

/-- Twelve characters are made an id of exactly when they are the first there are. -/
theorem createRoomId_eq_iff {chars : JsString} (length : chars.length = 12)
    (buffers : List (List UInt8)) :
    createRoomId buffers = some (grouped chars) ↔
      chars <+: buffers.flatten.filterMap letterOf := by
  rw [createRoomId, drawChars_nil, ← picked_eq_filterMap, Option.map_eq_some_iff]
  constructor
  · intro made
    obtain ⟨drawn, isDrawn, same⟩ := made
    obtain ⟨enough, first⟩ := Option.ite_none_right_eq_some.mp isDrawn
    have drawnFirst := Option.some.inj first
    have twelve : drawn.length = 12 := by
      rw [← drawnFirst, List.length_take]
      omega
    rw [← grouped_injective twelve length same, ← drawnFirst]
    exact List.take_prefix 12 _
  · intro begins
    have enough := begins.length_le
    refine ⟨chars, ?_, rfl⟩
    rw [if_pos (by omega), ← length, ← List.prefix_iff_eq_take.mp begins]

/-! ### What is drawn -/

/-- What `getRandomValues` fills the buffer with. -/
abbrev Buffer := Fin (GROUPS * GROUP_SIZE * 2) → UInt8

/-- The draws of some buffers are those of all their bytes. -/
def bytesEquiv (rounds : ℕ) :
    (Fin rounds → Buffer) ≃ (Fin (rounds * (GROUPS * GROUP_SIZE * 2)) → UInt8) :=
  (Equiv.curry _ _ _).symm.trans (finProdFinEquiv.arrowCongr (Equiv.refl UInt8))

private theorem ofFn_bytesEquiv {rounds : ℕ} (buffers : Fin rounds → Buffer) :
    List.ofFn (bytesEquiv rounds buffers) =
      (List.ofFn fun round => List.ofFn (buffers round)).flatten := by
  have byte : ∀ (round : Fin rounds) (place : Fin (GROUPS * GROUP_SIZE * 2))
      (inside : round.val * (GROUPS * GROUP_SIZE * 2) + place.val <
        rounds * (GROUPS * GROUP_SIZE * 2)),
      bytesEquiv rounds buffers ⟨round.val * (GROUPS * GROUP_SIZE * 2) + place.val, inside⟩ =
        buffers round place := by
    intro round place inside
    have same : ⟨round.val * (GROUPS * GROUP_SIZE * 2) + place.val, inside⟩ =
        finProdFinEquiv (round, place) := by
      apply Fin.ext
      show round.val * (GROUPS * GROUP_SIZE * 2) + place.val =
        place.val + GROUPS * GROUP_SIZE * 2 * round.val
      rw [Nat.mul_comm, Nat.add_comm]
    rw [same, bytesEquiv]
    simp [Equiv.curry]
  rw [List.ofFn_mul]
  simp only [byte]

/-- The draws of so many buffers that an id is made of. -/
noncomputable def drawsOf (rounds : ℕ) (id : JsString) : ℕ :=
  Nat.card { buffers : Fin rounds → Buffer //
    createRoomId (List.ofFn fun round => List.ofFn (buffers round)) = some id }

/-- The number of these does not depend on the id. -/
theorem drawsOf_code (rounds : ℕ) (places : Fin (GROUPS * GROUP_SIZE) → Fin ALPHABET.length) :
    drawsOf rounds (code places) = RejectionSampling.count 256
      (RejectionSampling.share letterOf none) 8 (rounds * (GROUPS * GROUP_SIZE * 2)) 12 := by
  have length : (List.ofFn fun index => ALPHABET.get (places index)).length = 12 :=
    List.length_ofFn
  have fair : ∀ unit ∈ List.ofFn fun index => ALPHABET.get (places index),
      RejectionSampling.share letterOf (some unit) = 8 := by
    intro unit member
    obtain ⟨index, rfl⟩ := (List.mem_ofFn' _ _).mp member
    exact share_letter (List.get_mem ALPHABET (places index))
  have ways := RejectionSampling.ways_eq_count letterOf (rounds * (GROUPS * GROUP_SIZE * 2)) fair
  rw [length, card_byte] at ways
  rw [← ways]
  apply Nat.card_congr
  apply (bytesEquiv rounds).subtypeEquiv
  intro buffers
  rw [ofFn_bytesEquiv]
  exact createRoomId_eq_iff length _

/-! ### The ids -/

/-- The ids that are ever made. -/
def codes : Set JsString := Set.range code

private theorem code_injective : Function.Injective code := by
  intro places others same
  have chars := grouped_injective List.length_ofFn List.length_ofFn same
  have distinct : Function.Injective ALPHABET.get := List.nodup_iff_injective_get.mp (by decide)
  funext index
  exact distinct (congrFun (List.ofFn_injective chars) index)

private theorem mem_alphabet_of_letterOf {byte : UInt8} {unit : UInt16}
    (stands : letterOf byte = some unit) : unit ∈ ALPHABET := by
  obtain ⟨-, same⟩ := Option.ite_none_right_eq_some.mp stands
  have inside : byte.toNat % ALPHABET.length < ALPHABET.length := Nat.mod_lt _ (by decide)
  rw [List.getD_eq_getElem?_getD, List.getElem?_eq_getElem inside, Option.getD_some] at same
  rw [← Option.some.inj same]
  exact List.getElem_mem inside

/-- Only these ids are made. -/
theorem mem_codes_of_createRoomId {buffers : List (List UInt8)} {id : JsString}
    (made : createRoomId buffers = some id) : id ∈ codes := by
  obtain ⟨chars, drawn, rfl⟩ := Option.map_eq_some_iff.mp made
  rw [drawChars_nil, picked_eq_filterMap] at drawn
  obtain ⟨enough, first⟩ := Option.ite_none_right_eq_some.mp drawn
  have first := Option.some.inj first
  have length : chars.length = GROUPS * GROUP_SIZE := by
    rw [← first, List.length_take, Nat.min_eq_left enough]
    rfl
  have place : ∀ index : Fin (GROUPS * GROUP_SIZE),
      ∃ place, ALPHABET.get place = chars.get (index.cast length.symm) := by
    intro index
    have member : chars.get (index.cast length.symm) ∈ buffers.flatten.filterMap letterOf := by
      apply List.mem_of_mem_take
      rw [first]
      exact List.get_mem chars _
    obtain ⟨byte, -, stands⟩ := List.mem_filterMap.mp member
    exact List.get_of_mem (mem_alphabet_of_letterOf stands)
  choose places isPlace using place
  refine ⟨places, congrArg grouped ?_⟩
  apply List.ext_getElem
  case hl => rw [List.length_ofFn, length]
  case h =>
    intro index inside _
    rw [List.getElem_ofFn]
    exact isPlace _

private theorem ncard_codes : codes.ncard = 31 ^ 12 := by
  rw [codes, ← Set.image_univ, Set.ncard_image_of_injective _ code_injective, Set.ncard_univ,
    Nat.card_eq_fintype_card, Fintype.card_fun, Fintype.card_fin, Fintype.card_fin]
  rfl

/-- An id is one of 31^12 codes, which is a little under 2^60, and however many
buffers are drawn, each of these is made of equally many draws; a single buffer
may do. -/
theorem room_ids_uniform :
    (∀ buffers id, createRoomId buffers = some id → id ∈ codes) ∧
      codes.ncard = 31 ^ 12 ∧ 2 ^ 59 < codes.ncard ∧ codes.ncard < 2 ^ 60 ∧
      (∀ rounds, ∀ id ∈ codes, ∀ other ∈ codes, drawsOf rounds id = drawsOf rounds other) ∧
      ∀ rounds, 0 < rounds → ∀ id ∈ codes, 0 < drawsOf rounds id := by
  refine ⟨fun buffers id made => mem_codes_of_createRoomId made, ncard_codes, ?_, ?_, ?_, ?_⟩
  case refine_1 =>
    rw [ncard_codes]
    decide
  case refine_2 =>
    rw [ncard_codes]
    decide
  case refine_3 =>
    intro rounds id isCode other isOther
    obtain ⟨places, rfl⟩ := isCode
    obtain ⟨others, rfl⟩ := isOther
    rw [drawsOf_code, drawsOf_code]
  case refine_4 =>
    intro rounds some id isCode
    obtain ⟨places, rfl⟩ := isCode
    rw [drawsOf_code]
    apply RejectionSampling.count_pos (by decide) (by decide)
    show 12 ≤ rounds * 24
    omega

end CollabEditor.Web
