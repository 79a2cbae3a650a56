/-
Module: JumptotechLabs.Core.Template
Layer: Core (library)
Purpose: Texts with variables. A template names a variable between a dollar sign with an opening brace and
  the first closing brace behind it; an exclamation mark in front of the name makes the whole
  literal text. `tokens` reads a template. `Mark`s are what a writer of templates puts down, and
  `Faithful` says exactly when a template that is written mark by mark reads as what was meant.
Main exports: Template.Token, Template.scan, scan_induction, flatMap_scan, Template.tokens, Template.textOf, textOf_injective, Template.Mark,
  Template.render, Template.meant, Template.Faithful, tokens_render_iff
-/
import JumptotechLabs.Core.Utf16

namespace JumptotechLabs.Core.Template

open JumptotechLabs.Core.Utf16

/-! ### Reading -/

/-- What a text with variables is made of. -/
inductive Token where
  | unit (code : UInt16)
  | reference (name : Utf16)
deriving DecidableEq

/-- The text behind the two units that open a variable, where a text starts with them. -/
def behindOpening : Utf16 → Option Utf16
  | first :: second :: rest => if first = 36 ∧ second = 123 then some rest else none
  | _ => none

theorem behindOpening_eq_some {text rest : Utf16} :
    behindOpening text = some rest ↔ text = 36 :: 123 :: rest := by
  constructor
  · intro found
    unfold behindOpening at found
    split at found
    · split at found
      · rename_i opens
        cases found
        rw [opens.1, opens.2]
      · cases found
    · cases found
  · rintro rfl
    rfl

/-- What a variable with this text between its braces stands for. -/
def variableTokens : Utf16 → List Token
  | [] => [.reference []]
  | first :: rest =>
      if first = 33 then ((36 : UInt16) :: 123 :: (rest ++ [125])).map .unit
      else [.reference (first :: rest)]

/-- Go over a template from left to right, with what to make of a unit and of the text between the braces
    of a variable. Where no closing brace is left, the rest is units. -/
def scan {β : Type} (onUnit : UInt16 → List β) (onVariable : Utf16 → List β) (text : Utf16) :
    List β :=
  match _opened : behindOpening text with
  | some rest =>
      match _closed : cutAt 125 rest with
      | some (body, after) => onVariable body ++ scan onUnit onVariable after
      | none => text.flatMap onUnit
  | none =>
      match text with
      | [] => []
      | unit :: rest => onUnit unit ++ scan onUnit onVariable rest
termination_by text.length
decreasing_by
  · obtain ⟨rfl, _⟩ := cutAt_eq_some_iff.mp _closed
    rw [behindOpening_eq_some.mp _opened]
    simp
    omega
  · simp

section Scan

variable {β γ : Type} (onUnit : UInt16 → List β) (onVariable : Utf16 → List β)

theorem scan_nil : scan onUnit onVariable [] = [] := by
  rw [scan]
  rfl

theorem scan_cons {unit : UInt16} {rest : Utf16} (plain : behindOpening (unit :: rest) = none) :
    scan onUnit onVariable (unit :: rest) = onUnit unit ++ scan onUnit onVariable rest := by
  rw [scan]
  split
  · rename_i opened
    rw [plain] at opened
    cases opened
  · rfl

theorem scan_closed {body after : Utf16} (absent : 125 ∉ body) :
    scan onUnit onVariable (36 :: 123 :: (body ++ 125 :: after)) =
      onVariable body ++ scan onUnit onVariable after := by
  have cut : cutAt 125 (body ++ 125 :: after) = some (body, after) :=
    cutAt_eq_some_iff.mpr ⟨rfl, absent⟩
  rw [scan]
  split
  · rename_i rest opened
    cases behindOpening_eq_some.mp opened
    split
    · rename_i body' after' closed
      rw [cut] at closed
      cases closed
      rfl
    · rename_i closed
      rw [cut] at closed
      cases closed
  · rename_i opened
    cases opened

theorem scan_unclosed {rest : Utf16} (absent : 125 ∉ rest) :
    scan onUnit onVariable (36 :: 123 :: rest) = (36 :: 123 :: rest).flatMap onUnit := by
  rw [scan]
  split
  · rename_i rest' opened
    cases behindOpening_eq_some.mp opened
    split
    · rename_i body after closed
      obtain ⟨rfl, _⟩ := cutAt_eq_some_iff.mp closed
      simp at absent
    · rfl
  · rename_i opened
    cases opened

/-- Every text is scanned in one of four ways. -/
theorem scan_induction {holds : Utf16 → Prop} (nil : holds [])
    (cons : ∀ unit rest, behindOpening (unit :: rest) = none → holds rest → holds (unit :: rest))
    (closed : ∀ body after, 125 ∉ body → holds after → holds (36 :: 123 :: (body ++ 125 :: after)))
    (unclosed : ∀ rest, 125 ∉ rest → holds (36 :: 123 :: rest)) (text : Utf16) : holds text := by
  -- The induction is on the length: a variable is passed over as a whole.
  induction size : text.length using Nat.strong_induction_on generalizing text with
  | _ size ih =>
      subst size
      cases opened : behindOpening text with
      | none =>
          cases text with
          | nil => exact nil
          | cons unit rest => exact cons unit rest opened (ih rest.length (by simp) rest rfl)
      | some rest =>
          cases behindOpening_eq_some.mp opened
          by_cases closes : 125 ∈ rest
          · obtain ⟨body, after, rfl, absent⟩ := List.eq_append_cons_of_mem closes
            exact closed body after absent (ih after.length (by simp; omega) after rfl)
          · exact unclosed rest closes

/-- What is made of each part may be taken further part by part. -/
theorem flatMap_scan (onward : β → List γ) (text : Utf16) :
    (scan onUnit onVariable text).flatMap onward =
      scan (fun unit => (onUnit unit).flatMap onward)
        (fun name => (onVariable name).flatMap onward) text := by
  induction text using scan_induction with
  | nil => simp only [scan_nil, List.flatMap_nil]
  | cons unit rest plain ih => simp only [scan_cons _ _ plain, List.flatMap_append, ih]
  | closed body after absent ih => simp only [scan_closed _ _ absent, List.flatMap_append, ih]
  | unclosed rest absent => simp only [scan_unclosed _ _ absent, List.flatMap_assoc]

end Scan

/-- Read a template. -/
def tokens (text : Utf16) : List Token := scan (fun unit => [.unit unit]) variableTokens text

/-- The text between two braces names a variable: it does not start with the mark of an escape. -/
def Names (name : Utf16) : Prop := name.head? ≠ some 33

theorem escaped_of_not_names {name : Utf16} (escapes : ¬ Names name) :
    ∃ rest, name = 33 :: rest := by
  unfold Names at escapes
  rw [not_not] at escapes
  exact List.head?_eq_some_iff.mp escapes

theorem variableTokens_of_names {name : Utf16} (names : Names name) :
    variableTokens name = [.reference name] := by
  cases name with
  | nil => rfl
  | cons first rest =>
      have notEscape : first ≠ 33 := fun same => names (by rw [same]; rfl)
      rw [variableTokens, if_neg notEscape]

theorem variableTokens_escaped (name : Utf16) :
    variableTokens (33 :: name) = .unit 36 :: .unit 123 :: (name.map .unit ++ [.unit 125]) := by
  simp [variableTokens]

theorem tokens_nil : tokens [] = [] := scan_nil _ _

theorem tokens_cons {unit : UInt16} {rest : Utf16}
    (plain : behindOpening (unit :: rest) = none) :
    tokens (unit :: rest) = .unit unit :: tokens rest :=
  scan_cons _ _ plain

theorem tokens_closed {body after : Utf16} (absent : 125 ∉ body) :
    tokens (36 :: 123 :: (body ++ 125 :: after)) = variableTokens body ++ tokens after :=
  scan_closed _ _ absent

theorem tokens_unclosed {rest : Utf16} (absent : 125 ∉ rest) :
    tokens (36 :: 123 :: rest) = (36 :: 123 :: rest).map .unit := by
  rw [tokens, scan_unclosed _ _ absent]
  exact List.flatMap_pure_eq_map _ _

/-! ### Values of variables -/

/-- The text of a token, its variables taken from `assign`. -/
def Token.text (assign : Utf16 → Utf16) : Token → Utf16
  | .unit code => [code]
  | .reference name => assign name

def textOf (assign : Utf16 → Utf16) (tokens : List Token) : Utf16 :=
  tokens.flatMap (Token.text assign)

@[simp] theorem textOf_nil (assign : Utf16 → Utf16) : textOf assign [] = [] := rfl

@[simp] theorem textOf_cons (assign : Utf16 → Utf16) (token : Token) (rest : List Token) :
    textOf assign (token :: rest) = token.text assign ++ textOf assign rest :=
  List.flatMap_cons

@[simp] theorem textOf_append (assign : Utf16 → Utf16) (first second : List Token) :
    textOf assign (first ++ second) = textOf assign first ++ textOf assign second :=
  List.flatMap_append

@[simp] theorem textOf_units (assign : Utf16 → Utf16) (text : Utf16) :
    textOf assign (text.map .unit) = text := by
  induction text with
  | nil => rfl
  | cons unit rest ih => rw [List.map_cons, textOf_cons, ih]; rfl

/-- The variables a text names, in order. -/
def Token.names : Token → List Utf16
  | .unit _ => []
  | .reference name => [name]

def namesOf (tokens : List Token) : List Utf16 := tokens.flatMap Token.names

@[simp] theorem namesOf_units (text : Utf16) : namesOf (text.map .unit) = [] := by
  induction text with
  | nil => rfl
  | cons unit rest ih => exact ih

/-- Two tokens that differ are told apart by the first unit of some assignment's values. -/
theorem exists_assign_of_ne {one other : Token} (differ : one ≠ other) :
    ∃ (assign : Utf16 → Utf16) (unit unit' : UInt16) (rest rest' : Utf16), unit ≠ unit' ∧
      one.text assign = unit :: rest ∧ other.text assign = unit' :: rest' := by
  cases one with
  | unit unit =>
      cases other with
      | unit unit' =>
          refine ⟨id, unit, unit', [], [], fun same => differ (by rw [same]), rfl, rfl⟩
      | reference name =>
          exact ⟨fun _ => [unit + 1], unit, unit + 1, [], [], by simp, rfl, rfl⟩
  | reference name =>
      cases other with
      | unit unit' =>
          exact ⟨fun _ => [unit' + 1], unit' + 1, unit', [], [], by simp, rfl, rfl⟩
      | reference name' =>
          have names : name' ≠ name := fun same => differ (by rw [same])
          refine ⟨fun asked => if asked = name then [0] else [1], 0, 1, [], [], by decide, ?_, ?_⟩
          · simp [Token.text]
          · simp [Token.text, names]

/-- A token has a text of its own under some assignment. -/
theorem exists_assign_nonempty (token : Token) :
    ∃ assign : Utf16 → Utf16, token.text assign ≠ [] := by
  refine ⟨fun _ => [0], ?_⟩
  cases token <;> simp [Token.text]

/-- Token lists that give the same text whatever the variables are worth are the same. -/
theorem textOf_injective {first second : List Token}
    (same : ∀ assign, textOf assign first = textOf assign second) : first = second := by
  induction first generalizing second with
  | nil =>
      cases second with
      | nil => rfl
      | cons token rest =>
          obtain ⟨assign, nonempty⟩ := exists_assign_nonempty token
          have empty := same assign
          rw [textOf_nil, textOf_cons, eq_comm, List.append_eq_nil_iff] at empty
          exact absurd empty.1 nonempty
  | cons token rest ih =>
      cases second with
      | nil =>
          obtain ⟨assign, nonempty⟩ := exists_assign_nonempty token
          have empty := same assign
          rw [textOf_nil, textOf_cons, List.append_eq_nil_iff] at empty
          exact absurd empty.1 nonempty
      | cons token' rest' =>
          by_cases equal : token = token'
          · subst equal
            have tails : rest = rest' := by
              apply ih
              intro assign
              have whole := same assign
              rw [textOf_cons, textOf_cons] at whole
              exact List.append_cancel_left whole
            rw [tails]
          · obtain ⟨assign, unit, unit', tail, tail', differ, left, right⟩ :=
              exists_assign_of_ne equal
            have whole := same assign
            rw [textOf_cons, textOf_cons, left, right] at whole
            exact absurd (List.cons.inj whole).1 differ

/-! ### Writing -/

/-- What a writer of templates puts down: a unit as it is, the opening of a variable that is meant
    literally, and a variable. -/
inductive Mark where
  | unit (code : UInt16)
  | opening
  | reference (name : Utf16)
deriving DecidableEq

/-- How a mark is written: a literal opening with the mark of an escape behind it. -/
def Mark.render : Mark → Utf16
  | .unit code => [code]
  | .opening => [36, 123, 33]
  | .reference name => 36 :: 123 :: (name ++ [125])

/-- What a mark means. -/
def Mark.tokens : Mark → List Token
  | .unit code => [.unit code]
  | .opening => [.unit 36, .unit 123]
  | .reference name => [.reference name]

def render (marks : List Mark) : Utf16 := marks.flatMap Mark.render

def meant (marks : List Mark) : List Token := marks.flatMap Mark.tokens

section Equations

variable (code : UInt16) (name : Utf16) (marks others : List Mark)

@[simp] theorem render_nil : render [] = [] := rfl

@[simp] theorem render_unit : render (.unit code :: marks) = code :: render marks :=
  List.flatMap_cons

@[simp] theorem render_opening : render (.opening :: marks) = 36 :: 123 :: 33 :: render marks :=
  List.flatMap_cons

@[simp] theorem render_reference :
    render (.reference name :: marks) = 36 :: 123 :: (name ++ 125 :: render marks) := by
  simp [render, Mark.render]

@[simp] theorem render_append : render (marks ++ others) = render marks ++ render others :=
  List.flatMap_append

@[simp] theorem render_units (text : Utf16) : render (text.map .unit) = text := by
  induction text with
  | nil => rfl
  | cons unit rest ih => rw [List.map_cons, render_unit, ih]

@[simp] theorem meant_nil : meant [] = [] := rfl

@[simp] theorem meant_unit : meant (.unit code :: marks) = .unit code :: meant marks :=
  List.flatMap_cons

@[simp] theorem meant_opening :
    meant (.opening :: marks) = .unit 36 :: .unit 123 :: meant marks :=
  List.flatMap_cons

@[simp] theorem meant_reference :
    meant (.reference name :: marks) = .reference name :: meant marks :=
  List.flatMap_cons

@[simp] theorem meant_append : meant (marks ++ others) = meant marks ++ meant others :=
  List.flatMap_append

@[simp] theorem meant_units (text : Utf16) : meant (text.map .unit) = text.map .unit := by
  induction text with
  | nil => rfl
  | cons unit rest ih => rw [List.map_cons, meant_unit, ih, List.map_cons]

theorem length_meant_le : (meant marks).length ≤ (render marks).length := by
  induction marks with
  | nil => exact le_refl _
  | cons mark rest ih => cases mark <;> simp <;> omega

end Equations

/-- Exactly the lists of marks that read as what was meant. A variable has a name that ends with its
    brace and is no escape. A literal opening is followed by units alone up to a closing brace. A
    dollar sign of its own is not followed by an opening brace of its own, unless nothing but units
    without a closing brace come behind them. -/
inductive Faithful : List Mark → Prop where
  | nil : Faithful []
  | unit {code : UInt16} {rest : List Mark}
      (plain : code = 36 → rest.head? ≠ some (.unit 123)) (faithful : Faithful rest) :
      Faithful (.unit code :: rest)
  | reference {name : Utf16} {rest : List Mark} (ends : 125 ∉ name) (names : Names name)
      (faithful : Faithful rest) : Faithful (.reference name :: rest)
  | opening {body : Utf16} {rest : List Mark} (ends : 125 ∉ body) (faithful : Faithful rest) :
      Faithful (.opening :: (body.map .unit ++ .unit 125 :: rest))
  | unclosed {text : Utf16} (absent : 125 ∉ text) :
      Faithful (.unit 36 :: .unit 123 :: text.map .unit)

/-- What is written starts with an opening brace only where that is the first mark. -/
theorem head_of_render {marks : List Mark} {code : UInt16} {rest : Utf16} (notDollar : code ≠ 36)
    (starts : render marks = code :: rest) :
    ∃ others, marks = .unit code :: others ∧ render others = rest := by
  cases marks with
  | nil => cases starts
  | cons mark others =>
      cases mark with
      | unit first =>
          obtain ⟨rfl, isRest⟩ := List.cons.inj (render_unit first others ▸ starts)
          exact ⟨others, rfl, isRest⟩
      | opening => exact absurd (List.cons.inj starts).1.symm notDollar
      | reference name => exact absurd (List.cons.inj starts).1.symm notDollar

theorem behindOpening_of_plain {code : UInt16} {rest : List Mark}
    (plain : code = 36 → rest.head? ≠ some (.unit 123)) :
    behindOpening (code :: render rest) = none := by
  cases opened : behindOpening (code :: render rest) with
  | none => rfl
  | some behind =>
      obtain ⟨isDollar, starts⟩ := List.cons.inj (behindOpening_eq_some.mp opened)
      obtain ⟨others, rfl, _⟩ := head_of_render (by decide) starts
      exact absurd rfl (plain isDollar)

/-- A faithful list of marks reads as what was meant. -/
theorem Faithful.tokens_render {marks : List Mark} (faithful : Faithful marks) :
    tokens (render marks) = meant marks := by
  induction faithful with
  | nil => exact tokens_nil
  | unit plain _ ih => rw [render_unit, tokens_cons (behindOpening_of_plain plain), ih, meant_unit]
  | reference ends names _ ih =>
      rw [render_reference, tokens_closed ends, variableTokens_of_names names, ih, meant_reference]
      rfl
  | @opening body rest ends _ ih =>
      have ends' : 125 ∉ (33 : UInt16) :: body := by simp [ends]
      have split : render (.opening :: (body.map .unit ++ .unit 125 :: rest)) =
          36 :: 123 :: ((33 :: body) ++ 125 :: render rest) := by simp
      rw [split, tokens_closed ends', variableTokens_escaped, ih]
      simp
  | unclosed absent =>
      rw [render_unit, render_unit, render_units, tokens_unclosed absent]
      simp

/-! ### What reads as meant is faithful -/

/-- The first unit of a text with a closing brace further on. -/
theorem cut_cons {code : UInt16} {text body after : Utf16} (notClosing : code ≠ 125)
    (cut : code :: text = body ++ 125 :: after) :
    ∃ rest, body = code :: rest ∧ text = rest ++ 125 :: after := by
  cases body with
  | nil => exact absurd (List.cons.inj cut).1 notClosing
  | cons first rest =>
      obtain ⟨rfl, isText⟩ := List.cons.inj cut
      exact ⟨rest, rfl, isText⟩

section Shifted

variable {code : UInt16} {body after : Utf16} {last : List Token}

/-- What is meant up to a closing brace is never what is written, one unit late. -/
theorem meant_ne_of_late {marks : List Mark} (notClosing : code ≠ 125) (ends : 125 ∉ body)
    (cut : render marks = body ++ 125 :: after) :
    .unit code :: meant marks ≠ body.map .unit ++ .unit 125 :: last := by
  intro same
  induction marks generalizing code body with
  | nil => simp at cut
  | cons mark rest ih =>
      cases mark with
      | unit first =>
          by_cases closing : first = 125
          · subst closing
            cases body with
            | nil => exact notClosing (Token.unit.inj (List.cons.inj same).1)
            | cons second others =>
                rw [render_unit] at cut
                exact ends (by simp [(List.cons.inj cut).1])
          · rw [render_unit] at cut
            obtain ⟨others, rfl, isRest⟩ := cut_cons closing cut
            rw [meant_unit] at same
            obtain ⟨_, tails⟩ := List.cons.inj same
            exact ih closing (fun isThere => ends (List.mem_cons_of_mem _ isThere)) isRest tails
      | opening =>
          rw [render_opening] at cut
          obtain ⟨afterDollar, rfl, cutDollar⟩ := cut_cons (by decide) cut
          obtain ⟨others, rfl, _⟩ := cut_cons (by decide) cutDollar
          simp at same
      | reference name =>
          rw [render_reference] at cut
          obtain ⟨afterDollar, rfl, cutDollar⟩ := cut_cons (by decide) cut
          obtain ⟨others, rfl, _⟩ := cut_cons (by decide) cutDollar
          simp at same

/-- Nor one unit early. -/
theorem meant_ne_of_early {marks : List Mark} (notClosing : code ≠ 125) (ends : 125 ∉ body)
    (cut : render marks = body ++ 125 :: after) :
    meant marks ≠ .unit code :: (body.map .unit ++ .unit 125 :: last) := by
  intro same
  induction marks generalizing code body with
  | nil => simp at cut
  | cons mark rest ih =>
      cases mark with
      | unit first =>
          rw [meant_unit] at same
          obtain ⟨isCode, tails⟩ := List.cons.inj same
          cases isCode
          rw [render_unit] at cut
          obtain ⟨others, rfl, isRest⟩ := cut_cons notClosing cut
          exact ih notClosing (fun isThere => ends (List.mem_cons_of_mem _ isThere)) isRest tails
      | opening =>
          rw [render_opening] at cut
          obtain ⟨others, rfl, _⟩ := cut_cons (by decide) cut
          simp at same
      | reference name => simp at same

/-- Where what is meant up to a closing brace is what is written, only units stand there. -/
theorem units_of_meant {marks : List Mark} (ends : 125 ∉ body)
    (cut : render marks = body ++ 125 :: after)
    (same : meant marks = body.map .unit ++ .unit 125 :: last) :
    ∃ rest, marks = body.map .unit ++ .unit 125 :: rest ∧ render rest = after ∧
      meant rest = last := by
  induction marks generalizing body with
  | nil => simp at cut
  | cons mark rest ih =>
      cases mark with
      | unit first =>
          rw [render_unit] at cut
          rw [meant_unit] at same
          cases body with
          | nil =>
              obtain ⟨rfl, isAfter⟩ := List.cons.inj cut
              exact ⟨rest, rfl, isAfter, (List.cons.inj same).2⟩
          | cons second others =>
              obtain ⟨rfl, isRest⟩ := List.cons.inj cut
              obtain ⟨others', rfl, written, isLast⟩ :=
                ih (fun isThere => ends (List.mem_cons_of_mem _ isThere)) isRest
                  (List.cons.inj same).2
              exact ⟨others', rfl, written, isLast⟩
      | opening =>
          rw [render_opening] at cut
          obtain ⟨afterDollar, rfl, cutDollar⟩ := cut_cons (by decide) cut
          obtain ⟨afterBrace, rfl, cutBrace⟩ := cut_cons (by decide) cutDollar
          obtain ⟨others, rfl, isRest⟩ := cut_cons (by decide) cutBrace
          have tails : meant rest = .unit 33 :: (others.map .unit ++ .unit 125 :: last) := by
            simpa using same
          refine absurd tails (meant_ne_of_early (by decide) ?_ isRest)
          intro isThere
          exact ends (by simp [isThere])
      | reference name =>
          rw [render_reference] at cut
          obtain ⟨others, rfl, _⟩ := cut_cons (by decide) cut
          simp at same

end Shifted

/-- Where what is meant is all that is written, only units were put down. -/
theorem units_of_meant_all {marks : List Mark} (same : meant marks = (render marks).map .unit) :
    marks = (render marks).map .unit := by
  induction marks with
  | nil => rfl
  | cons mark rest ih =>
      cases mark with
      | unit code =>
          rw [meant_unit, render_unit, List.map_cons] at same
          rw [render_unit, List.map_cons]
          exact congrArg _ (ih (List.cons.inj same).2)
      | opening =>
          have longer := length_meant_le rest
          have lengths := congrArg List.length same
          simp at lengths
          omega
      | reference name => simp at same

section Necessity

variable {rest : List Mark}

/-- A variable reads as itself only if its name ends with its brace and is no escape. -/
theorem names_of_tokens {name : Utf16}
    (same : tokens (render (.reference name :: rest)) = meant (.reference name :: rest)) :
    125 ∉ name ∧ Names name ∧ tokens (render rest) = meant rest := by
  rw [render_reference, meant_reference] at same
  have ends : 125 ∉ name := by
    intro closes
    obtain ⟨body, after, rfl, absent⟩ := List.eq_append_cons_of_mem closes
    rw [List.append_assoc, List.cons_append, tokens_closed absent] at same
    by_cases names : Names body
    · rw [variableTokens_of_names names] at same
      have shorter := congrArg List.length (Token.reference.inj (List.cons.inj same).1)
      simp at shorter
    · obtain ⟨escaped, rfl⟩ := escaped_of_not_names names
      rw [variableTokens_escaped] at same
      cases (List.cons.inj same).1
  rw [tokens_closed ends] at same
  by_cases names : Names name
  · rw [variableTokens_of_names names] at same
    exact ⟨ends, names, (List.cons.inj same).2⟩
  · obtain ⟨escaped, rfl⟩ := escaped_of_not_names names
    rw [variableTokens_escaped] at same
    cases (List.cons.inj same).1

/-- A literal opening reads as itself only if units alone follow up to a closing brace. -/
theorem closed_of_tokens
    (same : tokens (render (.opening :: rest)) = meant (.opening :: rest)) :
    ∃ (body : Utf16) (others : List Mark), 125 ∉ body ∧
      rest = body.map .unit ++ .unit 125 :: others ∧ tokens (render others) = meant others := by
  rw [render_opening, meant_opening] at same
  by_cases closes : 125 ∈ render rest
  · obtain ⟨body, after, cut, absent⟩ := List.eq_append_cons_of_mem closes
    have ends : 125 ∉ (33 : UInt16) :: body := by simp [absent]
    rw [cut, ← List.cons_append, tokens_closed ends, variableTokens_escaped] at same
    have behind : meant rest = body.map .unit ++ .unit 125 :: tokens after := by
      simpa using same.symm
    obtain ⟨others, rfl, isAfter, isMeant⟩ := units_of_meant absent cut behind
    exact ⟨body, others, absent, rfl, by rw [isAfter, isMeant]⟩
  · have absent : 125 ∉ (33 : UInt16) :: render rest := by simp [closes]
    rw [tokens_unclosed absent] at same
    have lengths := congrArg List.length same
    have longer := length_meant_le rest
    simp at lengths
    omega

/-- An opening of two units reads as itself only if nothing closes it, and only units follow. -/
theorem unclosed_of_tokens
    (same : tokens (render (.unit 36 :: .unit 123 :: rest)) =
      meant (.unit 36 :: .unit 123 :: rest)) :
    ∃ text : Utf16, 125 ∉ text ∧ rest = text.map .unit := by
  rw [render_unit, render_unit, meant_unit, meant_unit] at same
  by_cases closes : 125 ∈ render rest
  · obtain ⟨body, after, cut, absent⟩ := List.eq_append_cons_of_mem closes
    rw [cut, tokens_closed absent] at same
    by_cases names : Names body
    · rw [variableTokens_of_names names] at same
      cases (List.cons.inj same).1
    · obtain ⟨escaped, rfl⟩ := escaped_of_not_names names
      obtain ⟨others, rfl, isRest⟩ := head_of_render (by decide) cut
      rw [variableTokens_escaped, meant_unit] at same
      have late : Token.unit 33 :: meant others =
          escaped.map .unit ++ .unit 125 :: tokens after := by
        simpa using same.symm
      refine absurd late (meant_ne_of_late (by decide) ?_ isRest)
      exact fun isThere => absent (List.mem_cons_of_mem _ isThere)
  · rw [tokens_unclosed closes] at same
    refine ⟨render rest, closes, units_of_meant_all ?_⟩
    simpa using same.symm

/-- Marks read as what was meant exactly if they are faithful. -/
theorem tokens_render_iff (marks : List Mark) :
    tokens (render marks) = meant marks ↔ Faithful marks := by
  refine ⟨fun same => ?_, Faithful.tokens_render⟩
  -- The induction is on the number of marks: a literal opening takes the marks up to its brace.
  induction size : marks.length using Nat.strong_induction_on generalizing marks with
  | _ size ih =>
      subst size
      cases marks with
      | nil => exact .nil
      | cons mark rest =>
          cases mark with
          | reference name =>
              obtain ⟨ends, names, same⟩ := names_of_tokens same
              exact .reference ends names (ih rest.length (by simp) rest same rfl)
          | opening =>
              obtain ⟨body, others, ends, rfl, sameBehind⟩ := closed_of_tokens same
              exact .opening ends (ih others.length (by simp; omega) others sameBehind rfl)
          | unit code =>
              by_cases opens : code = 36 ∧ rest.head? = some (.unit 123)
              · obtain ⟨rfl, starts⟩ := opens
                obtain ⟨others, rfl⟩ := List.head?_eq_some_iff.mp starts
                obtain ⟨text, absent, rfl⟩ := unclosed_of_tokens same
                exact .unclosed absent
              · have plain : code = 36 → rest.head? ≠ some (.unit 123) :=
                  fun isDollar starts => opens ⟨isDollar, starts⟩
                rw [render_unit, meant_unit, tokens_cons (behindOpening_of_plain plain)] at same
                exact .unit plain (ih rest.length (by simp) rest (List.cons.inj same).2 rfl)

end Necessity

end JumptotechLabs.Core.Template
