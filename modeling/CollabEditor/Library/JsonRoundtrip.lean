import CollabEditor.Library.Json

/-!
Owns the round trip of JSON: what `stringify` writes, `parse` reads back as the
value it was written from, and it is text without lone surrogates.
-/

set_option autoImplicit false

namespace CollabEditor.Library.Json

/-! ### Values that can be written -/

/-- The stage of a number after its first unit. -/
def NumberStage.first (unit : UInt16) : Option NumberStage :=
  if unit = 0x2D then some .minus
  else if unit = 0x30 then some .zero
  else if isDigit unit then some .integer
  else none

/-- A literal that the grammar of numbers derives. -/
def IsNumber (literal : JsString) : Prop :=
  ∃ unit rest begun ended, literal = unit :: rest ∧ NumberStage.first unit = some begun ∧
    rest.foldlM NumberStage.next begun = some ended ∧ ended.complete = true

mutual

/-- Every literal in the value is one of the grammar. -/
def Writable : Json → Prop
  | .null => True
  | .bool _ => True
  | .number literal => IsNumber literal
  | .string _ => True
  | .array items => WritableItems items
  | .object members => WritableMembers members

def WritableItems : List Json → Prop
  | [] => True
  | item :: rest => Writable item ∧ WritableItems rest

def WritableMembers : List (JsString × Json) → Prop
  | [] => True
  | (_, value) :: rest => Writable value ∧ WritableMembers rest

end

/-! ### Reading from a state -/

/-- What becomes of a text that is read from this state on. -/
def outcome (state : State) (input : JsString) : Option Json :=
  (input.foldlM step state).bind finish

private theorem outcome_cons {state state' : State} {unit : UInt16} (rest : JsString)
    (steps : step state unit = some state') :
    outcome state (unit :: rest) = outcome state' rest := by
  unfold outcome
  rw [List.foldlM_cons, steps]
  rfl

/-- Two states that treat the next unit alike. -/
theorem outcome_congr {state other : State} {unit : UInt16} (rest : JsString)
    (same : step state unit = step other unit) :
    outcome state (unit :: rest) = outcome other (unit :: rest) := by
  unfold outcome
  rw [List.foldlM_cons, List.foldlM_cons, same]

/-! ### Strings -/

private theorem hexValue_hexDigit : ∀ digit < 16, hexValue (hexDigit digit) = some digit := by
  decide +kernel

private theorem outcome_plain {unit : UInt16} (stack : List Frame) (read : JsString) (isKey : Bool)
    (rest : JsString) (notQuote : unit ≠ 0x22) (notEscape : unit ≠ 0x5C)
    (notControl : ¬ unit.toNat < 0x20) :
    outcome ⟨stack, .string read isKey⟩ (unit :: rest) =
      outcome ⟨stack, .string (read ++ [unit]) isKey⟩ rest := by
  apply outcome_cons
  show (if unit = 0x22 then _ else if unit = 0x5C then _
    else if unit.toNat < 0x20 then _ else _) = _
  rw [if_neg notQuote, if_neg notEscape, if_neg notControl]

/-- A backslash and one more unit. -/
theorem outcome_escape {unit unescaped : UInt16} (stack : List Frame) (read : JsString)
    (isKey : Bool) (rest : JsString) (notHex : unit ≠ 0x75)
    (known : unescape unit = some unescaped) :
    outcome ⟨stack, .string read isKey⟩ (0x5C :: unit :: rest) =
      outcome ⟨stack, .string (read ++ [unescaped]) isKey⟩ rest := by
  have opened : step ⟨stack, .string read isKey⟩ 0x5C = some ⟨stack, .escape read isKey⟩ := rfl
  rw [outcome_cons _ opened]
  apply outcome_cons
  show (if unit = 0x75 then _ else (unescape unit).map _) = _
  rw [if_neg notHex, known]
  rfl

/-- Four hexadecimal digits. -/
theorem outcome_escapeUnit (unit : UInt16) (stack : List Frame) (read : JsString) (isKey : Bool)
    (rest : JsString) :
    outcome ⟨stack, .string read isKey⟩ (escapeUnit unit ++ rest) =
      outcome ⟨stack, .string (read ++ [unit]) isKey⟩ rest := by
  have small := unit.toNat_lt
  have whole : ((unit.toNat / 0x1000 * 16 + unit.toNat / 0x100 % 0x10) * 16 +
      unit.toNat / 0x10 % 0x10) * 16 + unit.toNat % 0x10 = unit.toNat := by omega
  have digit : ∀ value < 16, ∀ digits code, step ⟨stack, .hex read isKey digits code⟩
      (hexDigit value) = some (if digits = 3 then
        ⟨stack, .string (read ++ [UInt16.ofNat (code * 16 + value)]) isKey⟩
        else ⟨stack, .hex read isKey (digits + 1) (code * 16 + value)⟩) := by
    intro value isDigit digits code
    show (hexValue (hexDigit value)).map _ = _
    rw [hexValue_hexDigit value isDigit]
    rfl
  have opened : step ⟨stack, .string read isKey⟩ 0x5C = some ⟨stack, .escape read isKey⟩ := rfl
  have hex : step ⟨stack, .escape read isKey⟩ 0x75 = some ⟨stack, .hex read isKey 0 0⟩ := rfl
  unfold escapeUnit
  simp only [List.cons_append, List.nil_append]
  rw [outcome_cons _ opened, outcome_cons _ hex, outcome_cons _ (digit _ (by omega) 0 0),
    if_neg (by decide), outcome_cons _ (digit _ (by omega) _ _), if_neg (by decide),
    outcome_cons _ (digit _ (by omega) _ _), if_neg (by decide),
    outcome_cons _ (digit _ (by omega) _ _), if_pos rfl, Nat.zero_mul, Nat.zero_add, whole,
    UInt16.ofNat_toNat]

/-- How a unit is quoted: behind a backslash by a mark of its own, by its number,
or as it stands. -/
inductive Quoted (unit : UInt16) : JsString → Prop where
  | marked (mark : UInt16) (ascii : mark.toNat < 0x80) (notHex : mark ≠ 0x75)
      (known : unescape mark = some unit) : Quoted unit [0x5C, mark]
  | numbered : Quoted unit (escapeUnit unit)
  | plain (notQuote : unit ≠ 0x22) (notEscape : unit ≠ 0x5C) (notControl : ¬ unit.toNat < 0x20)
      (notHigh : Utf16.isHigh unit = false) (notLow : Utf16.isLow unit = false) : Quoted unit [unit]

private theorem quoted_quoteUnit (unit : UInt16) : Quoted unit (quoteUnit unit) := by
  unfold quoteUnit
  split
  · next special =>
      rcases special with rfl | rfl
      · exact .marked 0x22 (by decide) (by decide) rfl
      · exact .marked 0x5C (by decide) (by decide) rfl
  · next notSpecial =>
      split
      · next same => exact .marked 0x62 (by decide) (by decide) (same ▸ rfl)
      · split
        · next same => exact .marked 0x74 (by decide) (by decide) (same ▸ rfl)
        · split
          · next same => exact .marked 0x6E (by decide) (by decide) (same ▸ rfl)
          · split
            · next same => exact .marked 0x66 (by decide) (by decide) (same ▸ rfl)
            · split
              · next same => exact .marked 0x72 (by decide) (by decide) (same ▸ rfl)
              · split
                · exact .numbered
                · next plain =>
                    simp only [not_or, Bool.not_eq_true] at notSpecial plain
                    exact .plain notSpecial.1 notSpecial.2 plain.1 plain.2.1 plain.2.2

private theorem outcome_quoteUnit (unit : UInt16) (stack : List Frame) (read : JsString)
    (isKey : Bool) (rest : JsString) :
    outcome ⟨stack, .string read isKey⟩ (quoteUnit unit ++ rest) =
      outcome ⟨stack, .string (read ++ [unit]) isKey⟩ rest := by
  have quoted := quoted_quoteUnit unit
  generalize quoteUnit unit = written at quoted ⊢
  cases quoted with
  | marked mark ascii notHex known => exact outcome_escape stack read isKey rest notHex known
  | numbered => exact outcome_escapeUnit unit stack read isKey rest
  | plain notQuote notEscape notControl notHigh notLow =>
      exact outcome_plain stack read isKey rest notQuote notEscape notControl

private theorem outcome_quoteUnits (value : JsString) (stack : List Frame) (read : JsString)
    (isKey : Bool) (rest : JsString) :
    outcome ⟨stack, .string read isKey⟩ (quoteUnits value ++ rest) =
      outcome ⟨stack, .string (read ++ value) isKey⟩ rest := by
  fun_induction quoteUnits value generalizing read with
  | case1 => rw [List.append_nil]; rfl
  | case2 unit => exact outcome_quoteUnit unit stack read isKey rest
  | case3 unit next others pair inductionHypothesis =>
      have high := pair.1
      have low := pair.2
      rw [Utf16.isHigh, decide_eq_true_eq] at high
      rw [Utf16.isLow, decide_eq_true_eq] at low
      have notMarks : ∀ mark : UInt16, mark.toNat < 0x80 → unit ≠ mark ∧ next ≠ mark := by
        intro mark isAscii
        refine ⟨fun same => ?_, fun same => ?_⟩
        · rw [same] at high
          omega
        · rw [same] at low
          omega
      rw [List.cons_append, List.cons_append,
        outcome_plain stack read isKey _ (notMarks 0x22 (by decide)).1 (notMarks 0x5C (by decide)).1
          (by omega),
        outcome_plain stack _ isKey _ (notMarks 0x22 (by decide)).2 (notMarks 0x5C (by decide)).2
          (by omega),
        inductionHypothesis, List.append_assoc, List.append_assoc]
      rfl
  | case4 unit next others notPair inductionHypothesis =>
      rw [List.append_assoc, outcome_quoteUnit, inductionHypothesis, List.append_assoc]
      rfl

/-- A quoted string, once its first quote is read. -/
theorem outcome_string (value : JsString) (stack : List Frame) (isKey : Bool) (rest : JsString)
    {state : State} (ends : endString stack value isKey = some state) :
    outcome ⟨stack, .string [] isKey⟩ (quoteUnits value ++ 0x22 :: rest) = outcome state rest := by
  rw [outcome_quoteUnits, List.nil_append]
  exact outcome_cons _ ends

/-! ### Values -/

/-- What stands behind a value inside a text. -/
def Follows (rest : JsString) : Prop :=
  ∀ unit others, rest = unit :: others → unit = 0x2C ∨ unit = 0x5D ∨ unit = 0x7D

private theorem follows_nil : Follows [] := fun _ _ none => absurd none.symm (List.cons_ne_nil _ _)

private theorem follows_cons {unit : UInt16} (rest : JsString)
    (mark : unit = 0x2C ∨ unit = 0x5D ∨ unit = 0x7D) : Follows (unit :: rest) := by
  intro other others same
  rw [← (List.cons.inj same).1]
  exact mark

/-- No number goes on with a unit that may follow a value. -/
theorem NumberStage.next_of_follows {unit : UInt16} (stage : NumberStage)
    (mark : unit = 0x2C ∨ unit = 0x5D ∨ unit = 0x7D) : stage.next unit = none := by
  rcases mark with rfl | rfl | rfl
  · cases stage <;> rfl
  · cases stage <;> rfl
  · cases stage <;> rfl

private theorem outcome_digits {rest : JsString} (follows : Follows rest) (stack : List Frame)
    (units : JsString) (read : JsString) {stage ended : NumberStage}
    (runs : units.foldlM NumberStage.next stage = some ended) (complete : ended.complete = true) :
    outcome ⟨stack, .number read stage⟩ (units ++ rest) =
      outcome ⟨stack, .after (.number (read ++ units))⟩ rest := by
  induction units generalizing read stage with
  | nil =>
      obtain rfl : stage = ended := Option.some.inj runs
      rw [List.append_nil, List.nil_append]
      cases rest with
      | nil =>
          cases stack with
          | nil => exact if_pos complete
          | cons frame others => rfl
      | cons unit others =>
          apply outcome_congr
          have stops := stage.next_of_follows (follows unit others rfl)
          simp only [step, stops, complete, if_true]
  | cons unit others inductionHypothesis =>
      rw [List.foldlM_cons] at runs
      obtain ⟨next, goesOn, runs⟩ := Option.bind_eq_some_iff.mp runs
      have read' : step ⟨stack, .number read stage⟩ unit =
          some ⟨stack, .number (read ++ [unit]) next⟩ := by
        simp only [step, goesOn]
      rw [List.cons_append, outcome_cons _ read', inductionHypothesis _ runs, List.append_assoc]
      rfl

/-- The units that begin a number, and the stages they lead to. -/
theorem NumberStage.first_cases {unit : UInt16} {begun : NumberStage}
    (first : NumberStage.first unit = some begun) :
    (unit = 0x2D ∧ begun = .minus) ∨ (unit = 0x30 ∧ begun = .zero) ∨
      (unit ≠ 0x30 ∧ isDigit unit = true ∧ begun = .integer) := by
  unfold NumberStage.first at first
  split at first
  · next same => exact Or.inl ⟨same, (Option.some.inj first).symm⟩
  · split at first
    · next same => exact Or.inr (Or.inl ⟨same, (Option.some.inj first).symm⟩)
    · next notZero =>
        split at first
        · next digit => exact Or.inr (Or.inr ⟨notZero, digit, (Option.some.inj first).symm⟩)
        · cases first

/-- A digit above zero begins a number. -/
theorem step_digit {unit : UInt16} (stack : List Frame) (notZero : unit ≠ 0x30)
    (digit : isDigit unit = true) :
    step ⟨stack, .value⟩ unit = some ⟨stack, .number [unit] .integer⟩ := by
  have bounds := digit
  rw [isDigit, decide_eq_true_eq] at bounds
  have differs : ∀ mark : UInt16, ¬ (0x30 ≤ mark.toNat ∧ mark.toNat ≤ 0x39) → unit ≠ mark :=
    fun mark outside same => outside (same ▸ bounds)
  have notSpace : isSpace unit = false := by
    rw [isSpace, decide_eq_false_iff_not]
    simp only [not_or]
    exact ⟨differs _ (by decide), differs _ (by decide), differs _ (by decide),
      differs _ (by decide)⟩
  show (if isSpace unit then _ else beginValue stack unit) = _
  rw [notSpace, if_neg Bool.false_ne_true, beginValue, if_neg (differs _ (by decide)),
    if_neg (differs _ (by decide)), if_neg (differs _ (by decide)), if_neg (differs _ (by decide)),
    if_neg notZero, if_pos digit]

private theorem outcome_number {literal rest : JsString} (isNumber : IsNumber literal)
    (follows : Follows rest) (stack : List Frame) :
    outcome ⟨stack, .value⟩ (literal ++ rest) = outcome ⟨stack, .after (.number literal)⟩ rest := by
  obtain ⟨unit, units, begun, ended, rfl, first, runs, complete⟩ := isNumber
  have begins : step ⟨stack, .value⟩ unit = some ⟨stack, .number [unit] begun⟩ := by
    rcases NumberStage.first_cases first with ⟨rfl, rfl⟩ | ⟨rfl, rfl⟩ | ⟨notZero, digit, rfl⟩
    · rfl
    · rfl
    · exact step_digit stack notZero digit
  rw [List.cons_append, outcome_cons _ begins, outcome_digits follows stack units _ runs complete]
  rfl

/-- A value starts with no space and with no bracket that would close the array
it stands in. -/
theorem stringify_head {value : Json} (writable : Writable value) :
    ∃ unit rest, stringify value = unit :: rest ∧ isSpace unit = false ∧ unit ≠ 0x5D := by
  cases value with
  | null => exact ⟨0x6E, (text "null").tail, rfl, rfl, by decide⟩
  | bool value =>
      cases value with
      | false => exact ⟨0x66, (text "false").tail, rfl, rfl, by decide⟩
      | true => exact ⟨0x74, (text "true").tail, rfl, rfl, by decide⟩
  | number literal =>
      obtain ⟨unit, rest, begun, ended, same, first, -, -⟩ := writable
      refine ⟨unit, rest, same, ?_, ?_⟩
      · cases space : isSpace unit with
        | false => rfl
        | true =>
            rw [isSpace, decide_eq_true_eq] at space
            rcases space with rfl | rfl | rfl | rfl
            · cases first
            · cases first
            · cases first
            · cases first
      · rintro rfl
        cases first
  | string value => exact ⟨0x22, _, rfl, rfl, by decide⟩
  | array items => exact ⟨0x5B, _, rfl, rfl, by decide⟩
  | object members => exact ⟨0x7B, _, rfl, rfl, by decide⟩

private theorem outcome_firstItem {value : Json} (writable : Writable value) (stack : List Frame)
    (rest : JsString) :
    outcome ⟨stack, .firstItem⟩ (stringify value ++ rest) =
      outcome ⟨stack, .value⟩ (stringify value ++ rest) := by
  obtain ⟨unit, others, begins, notSpace, notBracket⟩ := stringify_head writable
  rw [begins, List.cons_append]
  apply outcome_congr
  show (if isSpace unit then _ else if unit = 0x5D then _ else beginValue stack unit) =
    if isSpace unit then _ else beginValue stack unit
  rw [notSpace, if_neg Bool.false_ne_true, if_neg Bool.false_ne_true, if_neg notBracket]

/-- A key with its quotes and the colon behind it. -/
theorem outcome_key (key : JsString) (stack : List Frame) (read : List (JsString × Json))
    (rest : JsString) :
    outcome ⟨.object read :: stack, .key⟩ (quote key ++ 0x3A :: rest) =
      outcome ⟨.member read key :: stack, .value⟩ rest := by
  have opened : step ⟨.object read :: stack, .key⟩ 0x22 =
      some ⟨.object read :: stack, .string [] true⟩ := rfl
  have colon : step ⟨.member read key :: stack, .colon⟩ 0x3A =
      some ⟨.member read key :: stack, .value⟩ := rfl
  rw [quote, List.append_assoc, List.cons_append, outcome_cons _ opened]
  show outcome _ (quoteUnits key ++ 0x22 :: 0x3A :: rest) = _
  rw [outcome_string key _ true _ rfl, outcome_cons _ colon]

private theorem stringifyItems_cons (item next : Json) (rest : List Json) :
    stringifyItems (item :: next :: rest) =
      stringify item ++ 0x2C :: stringifyItems (next :: rest) := rfl

private theorem stringifyMembers_cons (key : JsString) (value : Json) (next : JsString × Json)
    (rest : List (JsString × Json)) :
    stringifyMembers ((key, value) :: next :: rest) =
      quote key ++ 0x3A :: stringify value ++ 0x2C :: stringifyMembers (next :: rest) := rfl

mutual

private theorem outcome_stringify : (value : Json) → Writable value → (stack : List Frame) →
    (rest : JsString) → Follows rest →
    outcome ⟨stack, .value⟩ (stringify value ++ rest) = outcome ⟨stack, .after value⟩ rest
  | .null, _, _, _, _ => rfl
  | .bool true, _, _, _, _ => rfl
  | .bool false, _, _, _, _ => rfl
  | .number _, isNumber, stack, _, follows => outcome_number isNumber follows stack
  | .string value, _, stack, rest, _ => by
      have opened : step ⟨stack, .value⟩ 0x22 = some ⟨stack, .string [] false⟩ := rfl
      rw [stringify, quote, List.append_assoc, List.cons_append, outcome_cons _ opened]
      exact outcome_string value stack false rest rfl
  | .array [], _, _, _, _ => rfl
  | .array (item :: items), writable, stack, rest, _ => by
      have opened : step ⟨stack, .value⟩ 0x5B = some ⟨.array [] :: stack, .firstItem⟩ := rfl
      have all := outcome_items (item :: items) writable (List.cons_ne_nil _ _) stack [] rest
      rw [stringify, List.append_assoc, List.cons_append, outcome_cons _ opened]
      cases items with
      | nil => exact (outcome_firstItem writable.1 _ _).trans all
      | cons next others =>
          rw [stringifyItems_cons, List.append_assoc] at all ⊢
          exact (outcome_firstItem writable.1 _ _).trans all
  | .object [], _, _, _, _ => rfl
  | .object (member :: members), writable, stack, rest, _ => by
      have opened : step ⟨stack, .value⟩ 0x7B = some ⟨.object [] :: stack, .firstKey⟩ := rfl
      have all := outcome_members (member :: members) writable (List.cons_ne_nil _ _) stack [] rest
      rw [stringify, List.append_assoc, List.cons_append, outcome_cons _ opened]
      cases members with
      | nil => exact (outcome_congr _ rfl).trans all
      | cons next others => exact (outcome_congr _ rfl).trans all

theorem outcome_items : (items : List Json) → WritableItems items → items ≠ [] →
    (stack : List Frame) → (read : List Json) → (rest : JsString) →
    outcome ⟨.array read :: stack, .value⟩ (stringifyItems items ++ 0x5D :: rest) =
      outcome ⟨stack, .after (.array (read ++ items))⟩ rest
  | [], _, nonempty, _, _, _ => absurd rfl nonempty
  | [item], writable, _, stack, read, rest => by
      have closed : step ⟨.array read :: stack, .after item⟩ 0x5D =
          some ⟨stack, .after (.array (read ++ [item]))⟩ := rfl
      rw [stringifyItems, outcome_stringify item writable.1 _ _
        (follows_cons rest (Or.inr (Or.inl rfl))), outcome_cons _ closed]
  | item :: next :: others, writable, _, stack, read, rest => by
      have comma : step ⟨.array read :: stack, .after item⟩ 0x2C =
          some ⟨.array (read ++ [item]) :: stack, .value⟩ := rfl
      rw [stringifyItems_cons, List.append_assoc, List.cons_append,
        outcome_stringify item writable.1 _ _ (follows_cons _ (Or.inl rfl)), outcome_cons _ comma,
        outcome_items (next :: others) writable.2 (List.cons_ne_nil _ _), List.append_assoc]
      rfl

theorem outcome_members : (members : List (JsString × Json)) → WritableMembers members →
    members ≠ [] → (stack : List Frame) → (read : List (JsString × Json)) → (rest : JsString) →
    outcome ⟨.object read :: stack, .key⟩ (stringifyMembers members ++ 0x7D :: rest) =
      outcome ⟨stack, .after (.object (read ++ members))⟩ rest
  | [], _, nonempty, _, _, _ => absurd rfl nonempty
  | [(key, value)], writable, _, stack, read, rest => by
      have closed : step ⟨.member read key :: stack, .after value⟩ 0x7D =
          some ⟨stack, .after (.object (read ++ [(key, value)]))⟩ := rfl
      rw [stringifyMembers, List.append_assoc, List.cons_append, outcome_key,
        outcome_stringify value writable.1 _ _ (follows_cons rest (Or.inr (Or.inr rfl))),
        outcome_cons _ closed]
  | (key, value) :: next :: others, writable, _, stack, read, rest => by
      have comma : step ⟨.member read key :: stack, .after value⟩ 0x2C =
          some ⟨.object (read ++ [(key, value)]) :: stack, .key⟩ := rfl
      rw [stringifyMembers_cons, List.append_assoc, List.cons_append, List.append_assoc,
        List.cons_append, outcome_key,
        outcome_stringify value writable.1 _ _ (follows_cons _ (Or.inl rfl)),
        outcome_cons _ comma, outcome_members (next :: others) writable.2 (List.cons_ne_nil _ _),
        List.append_assoc]
      rfl

end

/-- What is written is read back. -/
theorem parse_stringify {value : Json} (writable : Writable value) :
    parse (stringify value) = some value := by
  have whole := outcome_stringify value writable [] [] follows_nil
  rw [List.append_nil] at whole
  exact whole

/-! ### The text has no lone surrogate -/

open Utf16 (WellFormed)

private theorem wellFormed_of_ascii {value : JsString} (ascii : ∀ unit ∈ value, unit.toNat < 0x80) :
    WellFormed value := by
  obtain ⟨chars, same, -⟩ := Utf16.ascii_encode ascii
  exact ⟨chars, same⟩

private theorem wellFormed_cons {unit : UInt16} {rest : JsString} (ascii : unit.toNat < 0x80)
    (isRest : WellFormed rest) : WellFormed (unit :: rest) :=
  (wellFormed_of_ascii (List.forall_mem_singleton.mpr ascii)).append isRest

private theorem hexDigit_ascii : ∀ digit < 16, (hexDigit digit).toNat < 0x80 := by decide +kernel

private theorem escapeUnit_ascii (unit : UInt16) :
    ∀ escaped ∈ escapeUnit unit, escaped.toNat < 0x80 := by
  have small := unit.toNat_lt
  simp only [escapeUnit, List.forall_mem_cons]
  refine ⟨by decide, by decide, hexDigit_ascii _ (by omega), hexDigit_ascii _ (by omega),
    hexDigit_ascii _ (by omega), hexDigit_ascii _ (by omega), ?_⟩
  exact fun escaped none => absurd none List.not_mem_nil

private theorem wellFormed_quoteUnit (unit : UInt16) : WellFormed (quoteUnit unit) := by
  have quoted := quoted_quoteUnit unit
  generalize quoteUnit unit = written at quoted ⊢
  cases quoted with
  | marked mark ascii notHex known =>
      exact wellFormed_cons (by decide) (wellFormed_cons ascii Utf16.wellFormed_nil)
  | numbered => exact wellFormed_of_ascii (escapeUnit_ascii unit)
  | plain notQuote notEscape notControl notHigh notLow =>
      exact Utf16.units_single notHigh notLow ▸ Utf16.wellFormed_units _

private theorem wellFormed_quoteUnits (value : JsString) : WellFormed (quoteUnits value) := by
  fun_induction quoteUnits value with
  | case1 => exact Utf16.wellFormed_nil
  | case2 unit => exact wellFormed_quoteUnit unit
  | case3 unit next others pair inductionHypothesis =>
      exact (Utf16.units_pair pair.1 pair.2 ▸ Utf16.wellFormed_units _ :
        WellFormed [unit, next]).append inductionHypothesis
  | case4 unit next others notPair inductionHypothesis =>
      exact (wellFormed_quoteUnit unit).append inductionHypothesis

private theorem wellFormed_quote (value : JsString) : WellFormed (quote value) :=
  wellFormed_cons (by decide)
    ((wellFormed_quoteUnits value).append (wellFormed_cons (by decide) Utf16.wellFormed_nil))

/-- A number goes on with ASCII only. -/
theorem NumberStage.next_ascii {stage next : NumberStage} {unit : UInt16}
    (goesOn : stage.next unit = some next) : unit.toNat < 0x80 := by
  by_contra large
  have notDigit : isDigit unit = false := by
    rw [isDigit, decide_eq_false_iff_not]
    omega
  have differs : ∀ mark : UInt16, mark.toNat < 0x80 → unit ≠ mark :=
    fun mark isAscii same => large (same ▸ isAscii)
  have marks := And.intro (differs 0x2E (by decide)) (And.intro (differs 0x65 (by decide))
    (And.intro (differs 0x45 (by decide)) (And.intro (differs 0x2B (by decide))
      (And.intro (differs 0x2D (by decide)) (differs 0x30 (by decide))))))
  cases stage <;> simp [NumberStage.next, notDigit, marks] at goesOn

private theorem IsNumber.ascii {literal : JsString} (isNumber : IsNumber literal) :
    ∀ unit ∈ literal, unit.toNat < 0x80 := by
  obtain ⟨unit, rest, begun, ended, rfl, first, runs, -⟩ := isNumber
  refine List.forall_mem_cons.mpr ⟨?_, ?_⟩
  · rcases NumberStage.first_cases first with ⟨rfl, -⟩ | ⟨rfl, -⟩ | ⟨-, digit, -⟩
    · decide
    · decide
    · rw [isDigit, decide_eq_true_eq] at digit
      omega
  · clear first
    induction rest generalizing begun with
    | nil => exact fun other none => absurd none List.not_mem_nil
    | cons next others inductionHypothesis =>
        rw [List.foldlM_cons] at runs
        obtain ⟨stage, goesOn, runs⟩ := Option.bind_eq_some_iff.mp runs
        exact List.forall_mem_cons.mpr ⟨NumberStage.next_ascii goesOn, inductionHypothesis _ runs⟩

mutual

theorem wellFormed_stringify : (value : Json) → Writable value → WellFormed (stringify value)
  | .null, _ => ⟨"null".toList, rfl⟩
  | .bool true, _ => ⟨"true".toList, rfl⟩
  | .bool false, _ => ⟨"false".toList, rfl⟩
  | .number _, isNumber => wellFormed_of_ascii (IsNumber.ascii isNumber)
  | .string value, _ => wellFormed_quote value
  | .array items, writable => by
      rw [stringify]
      exact wellFormed_cons (by decide)
        ((wellFormed_items items writable).append
          (wellFormed_cons (by decide) Utf16.wellFormed_nil))
  | .object members, writable => by
      rw [stringify]
      exact wellFormed_cons (by decide)
        ((wellFormed_members members writable).append
          (wellFormed_cons (by decide) Utf16.wellFormed_nil))

theorem wellFormed_items : (items : List Json) → WritableItems items →
    WellFormed (stringifyItems items)
  | [], _ => Utf16.wellFormed_nil
  | [item], writable => wellFormed_stringify item writable.1
  | item :: next :: others, writable => by
      rw [stringifyItems_cons]
      exact (wellFormed_stringify item writable.1).append
        (wellFormed_cons (by decide) (wellFormed_items (next :: others) writable.2))

theorem wellFormed_members : (members : List (JsString × Json)) → WritableMembers members →
    WellFormed (stringifyMembers members)
  | [], _ => Utf16.wellFormed_nil
  | [(key, value)], writable =>
      (wellFormed_quote key).append
        (wellFormed_cons (by decide) (wellFormed_stringify value writable.1))
  | (key, value) :: next :: others, writable => by
      rw [stringifyMembers_cons, List.append_assoc]
      exact (wellFormed_quote key).append
        (wellFormed_cons (by decide) ((wellFormed_stringify value writable.1).append
          (wellFormed_cons (by decide) (wellFormed_members (next :: others) writable.2))))

end

end CollabEditor.Library.Json
