/-
Module: JumptotechLabs.Verifier.DelimitedSpans
Layer: Verifier (services/verifier/src/line-value.ts)
Purpose: The spans between an opener and a closing text, found in linear time: the loop keeps the next stop it
  has found. They are the matches of the regular expression the loop replaced, and those of a template
  are the variables that a substitution replaces in it.
Main exports: delimitedSpans, spanExpression, spanAt, spansFrom_eq, Cut, scanners_match_expressions
-/
import JumptotechLabs.Verifier.CloudFormation
import JumptotechLabs.Verifier.LineValue

namespace JumptotechLabs.Verifier

open JumptotechLabs.Core

/-! ### The source -/

/-- One span: the whole of it, and what is between its delimiters. -/
structure DelimitedSpan where
  text : Utf16
  body : Utf16
deriving DecidableEq

/-- Where the needle stands first in a text whose first unit is at `index`. -/
def indexFrom (needle : Utf16) : Nat → Utf16 → Option Nat
  | index, [] => if needle.isEmpty then some index else none
  | index, unit :: rest =>
      if needle <+: unit :: rest then some index else indexFrom needle (index + 1) rest

/-- `text.indexOf(needle, position)`. -/
def indexOf (text needle : Utf16) (position : Nat) : Option Nat :=
  indexFrom needle position (text.drop position)

/-- `text.slice(start, stop)`. -/
def slice (text : Utf16) (start stop : Nat) : Utf16 := (text.take stop).drop start

/-- The rounds of the loop, with `nextStop` once it was found. Every round starts further on. -/
def spansFrom (text opener : Utf16) (stop : UInt16) (close : Utf16) :
    Nat → Nat → Option Nat → List DelimitedSpan
  | 0, _, _ => []
  | rounds + 1, position, nextStop =>
      match indexOf text opener position with
      | none => []
      | some start =>
          let bodyStart := start + opener.length
          match if nextStop.any (bodyStart ≤ ·) then nextStop else indexOf text [stop] bodyStart with
          | none => []
          | some stopAt =>
              if close <+: text.drop stopAt then
                ⟨slice text start (stopAt + close.length), slice text bodyStart stopAt⟩ ::
                  spansFrom text opener stop close rounds (stopAt + close.length) (some stopAt)
              else spansFrom text opener stop close rounds (start + 1) (some stopAt)

/-- The spans from an opener to the closer, found by `indexOf`. -/
def delimitedSpans (text opener : Utf16) (stop : UInt16) (close : Utf16) : List DelimitedSpan :=
  spansFrom text opener stop close (text.length + 1) 0 none

/-! ### The expression it replaced -/

/-- The opener, `[^stop]*`, and the closing text. -/
def spanExpression (opener : Utf16) (stop : UInt16) (close : Utf16) : Pattern UInt16 :=
  .seq (.literal opener) (.seq (.group 1 (.many true fun unit => unit != stop)) (.literal close))

/-! ### The spans of a text -/

/-- The body of the span that starts a text, if one does: up to the first stop, where the closing text
    must follow. -/
def spanAt (opener : Utf16) (stop : UInt16) (close text : Utf16) : Option Utf16 :=
  if opener <+: text then
    match Utf16.cutAt stop (text.drop opener.length) with
    | none => none
    | some (body, after) => if close <+: stop :: after then some body else none
  else none

section Spans

variable {opener close : Utf16} {stop : UInt16} {text : Utf16}

/-- A match of the expression is an opener, a body without the stop, and the rest of the closer. -/
theorem way_spanExpression {cursor : Cursor UInt16} {way : Pattern.Way UInt16} {behind : Utf16}
    (inWays : way ∈ (spanExpression opener stop (stop :: behind)).ways cursor) :
    ∃ body after, cursor.ahead = opener ++ (body ++ stop :: after) ∧ stop ∉ body ∧ behind <+: after := by
  obtain ⟨opened, atOpener, rest, further, rfl⟩ := Pattern.mem_ways_seq.mp inWays
  rw [Pattern.ways_literal] at atOpener
  split at atOpener
  · rename_i starts
    obtain ⟨ahead, whole⟩ := starts
    cases List.mem_singleton.mp atOpener
    obtain ⟨held, inGroup, last, closes, rfl⟩ := Pattern.mem_ways_seq.mp further
    obtain ⟨inner, inMany, rfl⟩ := Pattern.mem_ways_group.mp inGroup
    obtain ⟨-, body, split, all, -⟩ := Pattern.mem_ways_many.mp inMany
    rw [Pattern.ways_literal] at closes
    split at closes
    · rename_i ending
      obtain ⟨after, ends⟩ := ending
      refine ⟨body, behind ++ after, ?_, ?_, List.prefix_append _ _⟩
      · simp only at split ends
        rw [← whole, List.drop_left] at split
        rw [← whole, split, ← ends]
        rfl
      · intro inside
        have differs := all stop inside
        simp at differs
    · cases closes
  · cases atOpener

/-- The match at a place is the span there. -/
theorem matchAt_spanExpression {behind : Utf16} (index : Nat) (previous : Option UInt16) :
    (spanExpression opener stop (stop :: behind)).matchAt index previous text =
      (spanAt opener stop (stop :: behind) text).map fun body =>
        ⟨index, opener ++ (body ++ stop :: behind), [(1, body)]⟩ := by
  have noWay : (∀ body after, text = opener ++ (body ++ stop :: after) → stop ∉ body → ¬ behind <+: after) →
      (spanExpression opener stop (stop :: behind)).matchAt index previous text = none := by
    intro fails
    rw [Pattern.matchAt, Option.map_eq_none_iff, Pattern.firstWay_eq_none_iff,
      List.eq_nil_iff_forall_not_mem]
    intro way inWays
    obtain ⟨body, after, whole, free, ends⟩ := way_spanExpression inWays
    exact fails body after whole free ends
  rw [spanAt]
  by_cases starts : opener <+: text
  · obtain ⟨ahead, rfl⟩ := starts
    rw [if_pos (List.prefix_append _ _), List.drop_left]
    cases cut : Utf16.cutAt stop ahead with
    | none =>
        apply noWay
        intro body after whole free
        rw [Utf16.cutAt_eq_some_iff.mpr ⟨List.append_cancel_left whole, free⟩] at cut
        cases cut
    | some parts =>
        obtain ⟨body, after⟩ := parts
        obtain ⟨rfl, free⟩ := Utf16.cutAt_eq_some_iff.mp cut
        dsimp only
        by_cases closes : stop :: behind <+: stop :: after
        · obtain ⟨last, isAfter⟩ := (List.cons_prefix_cons.mp closes).2
          subst isAfter
          have held : (Pattern.seq (.group 1 (.many true fun unit => unit != stop))
              (.literal (stop :: behind))).firstWay
                ⟨Pattern.passed previous opener, body ++ stop :: (behind ++ last)⟩ =
              some ⟨⟨Pattern.passed (Pattern.passed (Pattern.passed previous opener) body)
                (stop :: behind), last⟩, [(1, body)]⟩ := by
            rw [Pattern.firstWay_seq, Pattern.findSome?_ways_group]
            refine Pattern.findSome?_greedy_of_success _ ?_ ?_ ?_
            · intro unit inside
              rw [bne_iff_ne]
              rintro rfl
              exact free inside
            · intro unit first
              cases first
              exact bne_self_eq_false _
            · rw [Pattern.firstWay, Pattern.ways_literal, Pattern.between_append]
              simp
          have isMatch : (spanExpression opener stop (stop :: behind)).firstWay
              ⟨previous, opener ++ (body ++ stop :: (behind ++ last))⟩ =
                some ⟨⟨Pattern.passed (Pattern.passed (Pattern.passed previous opener) body)
                  (stop :: behind), last⟩, [(1, body)]⟩ := by
            rw [spanExpression, Pattern.firstWay_seq, Pattern.ways_literal,
              if_pos (List.prefix_append _ _), List.findSome?_cons, List.drop_left, held]
            rfl
          have taken : Pattern.between (opener ++ (body ++ stop :: (behind ++ last))) last =
              opener ++ (body ++ stop :: behind) := by
            have same : opener ++ (body ++ stop :: (behind ++ last)) =
                (opener ++ (body ++ stop :: behind)) ++ last := by simp
            rw [same, Pattern.between_append]
          rw [if_pos closes, Pattern.matchAt, isMatch]
          simp only [Option.map_some, taken]
        · rw [if_neg closes]
          apply noWay
          intro body' after' whole free' ends
          have same := Utf16.cutAt_eq_some_iff.mpr ⟨List.append_cancel_left whole, free'⟩
          rw [cut] at same
          cases same
          exact closes (List.cons_prefix_cons.mpr ⟨rfl, ends⟩)
  · rw [if_neg starts]
    apply noWay
    rintro body after rfl
    exact absurd (List.prefix_append _ _) starts

theorem unanchored_spanExpression (behind : Utf16) :
    (spanExpression opener stop (stop :: behind)).Unanchored := by
  intro index previous previous' text
  rw [matchAt_spanExpression, matchAt_spanExpression]

/-- A span is an opener, a body without the stop, and the closer. -/
theorem spanAt_some {body behind : Utf16} (found : spanAt opener stop (stop :: behind) text = some body) :
    ∃ after, text = opener ++ (body ++ stop :: behind) ++ after ∧ stop ∉ body := by
  rw [spanAt] at found
  split at found
  · rename_i starts
    obtain ⟨ahead, rfl⟩ := starts
    rw [List.drop_left] at found
    split at found
    · cases found
    · rename_i body' after cut
      split at found
      · rename_i closes
        cases found
        obtain ⟨rfl, free⟩ := Utf16.cutAt_eq_some_iff.mp cut
        obtain ⟨last, rfl⟩ := (List.cons_prefix_cons.mp closes).2
        exact ⟨last, by simp, free⟩
      · cases found
  · cases found

theorem spanAt_nil {behind : Utf16} : spanAt opener stop (stop :: behind) [] = none := by
  cases found : spanAt opener stop (stop :: behind) [] with
  | none => rfl
  | some body =>
      obtain ⟨after, whole, -⟩ := spanAt_some found
      simp at whole

/-- The matches of the expression from a position on. -/
def matchedSpans (opener : Utf16) (stop : UInt16) (close text : Utf16) (position : Nat) :
    List (Pattern.Match UInt16) :=
  (spanExpression opener stop close).matchesFrom 0 position none (text.drop position)

/-- Where a span stands, it is listed, and the search goes on behind it. -/
theorem matchedSpans_some {body behind : Utf16} {position : Nat}
    (found : spanAt opener stop (stop :: behind) (text.drop position) = some body) :
    matchedSpans opener stop (stop :: behind) text position =
      ⟨position, opener ++ (body ++ stop :: behind), [(1, body)]⟩ ::
        matchedSpans opener stop (stop :: behind) text
          (position + (opener ++ (body ++ stop :: behind)).length) := by
  obtain ⟨after, whole, -⟩ := spanAt_some found
  obtain ⟨before, long⟩ : ∃ before, (opener ++ (body ++ stop :: behind)).length = before + 1 :=
    ⟨opener.length + (body.length + behind.length), by simp; omega⟩
  rw [matchedSpans, matchedSpans]
  cases ahead : text.drop position with
  | nil =>
      rw [ahead] at whole
      simp at whole
  | cons unit rest =>
      rw [ahead] at found whole
      have inside : before ≤ rest.length := by
        have lengths := congrArg List.length whole
        rw [List.length_cons, List.length_append, long] at lengths
        omega
      have onward : text.drop (position + (opener ++ (body ++ stop :: behind)).length) = rest.drop before := by
        rw [← List.drop_drop, ahead, long, List.drop_succ_cons]
      rw [Pattern.matchesFrom, matchAt_spanExpression, found, onward]
      simp only [Option.map_some]
      rw [Pattern.matchesFrom_skip (unanchored_spanExpression behind), long]
      · simp only [Nat.add_sub_cancel]
        rw [Nat.add_assoc, Nat.add_comm 1 before]
      · rw [long]
        exact inside

/-- Where none stands, the search goes on at the next unit. -/
theorem matchedSpans_none {behind : Utf16} {position : Nat} (inside : position < text.length)
    (missing : spanAt opener stop (stop :: behind) (text.drop position) = none) :
    matchedSpans opener stop (stop :: behind) text position =
      matchedSpans opener stop (stop :: behind) text (position + 1) := by
  rw [matchedSpans, matchedSpans]
  cases ahead : text.drop position with
  | nil => exact absurd (List.drop_eq_nil_iff.mp ahead) (Nat.not_le.mpr inside)
  | cons unit rest =>
      rw [ahead] at missing
      have onward : text.drop (position + 1) = rest := by rw [← List.drop_drop, ahead]; rfl
      rw [Pattern.matchesFrom, matchAt_spanExpression, missing, onward]
      exact Pattern.matchesFrom_previous (unanchored_spanExpression behind) _ _ _ _ _

theorem matchedSpans_end {behind : Utf16} {position : Nat} (outside : text.length ≤ position) :
    matchedSpans opener stop (stop :: behind) text position = [] := by
  rw [matchedSpans, List.drop_eq_nil_iff.mpr outside, Pattern.matchesFrom, matchAt_spanExpression,
    spanAt_nil]
  rfl

/-- Positions without a span are passed over. -/
theorem matchedSpans_skip {behind : Utf16} {position start : Nat} (ahead : position ≤ start)
    (inside : start ≤ text.length)
    (missing : ∀ between, position ≤ between → between < start →
      spanAt opener stop (stop :: behind) (text.drop between) = none) :
    matchedSpans opener stop (stop :: behind) text position =
      matchedSpans opener stop (stop :: behind) text start := by
  induction start, ahead using Nat.le_induction with
  | base => rfl
  | succ start ahead ih =>
      have here := missing start ahead (Nat.lt_succ_self start)
      rw [ih (by omega) fun between after before => missing between after (by omega),
        matchedSpans_none (by omega) here]

/-- With no span ahead, none is listed. -/
theorem matchedSpans_nil {behind : Utf16} {position : Nat}
    (missing : ∀ later, position ≤ later →
      spanAt opener stop (stop :: behind) (text.drop later) = none) :
    matchedSpans opener stop (stop :: behind) text position = [] := by
  rcases Nat.le_total position text.length with inside | outside
  · rw [matchedSpans_skip inside le_rfl fun between after _ => missing between after]
    exact matchedSpans_end le_rfl
  · exact matchedSpans_end outside

/-! ### The loop -/

/-- What is found is the first occurrence. -/
theorem indexFrom_some {needle : Utf16} {text : Utf16} {index found : Nat}
    (isFound : indexFrom needle index text = some found) :
    ∃ offset, found = index + offset ∧ offset ≤ text.length ∧ needle <+: text.drop offset ∧
      ∀ earlier, earlier < offset → ¬ needle <+: text.drop earlier := by
  induction text generalizing index with
  | nil =>
      rw [indexFrom] at isFound
      split at isFound
      · rename_i empty
        cases isFound
        rw [List.isEmpty_iff.mp empty]
        exact ⟨0, rfl, le_rfl, List.nil_prefix, by simp⟩
      · cases isFound
  | cons unit rest ih =>
      rw [indexFrom] at isFound
      split at isFound
      · rename_i here
        cases isFound
        exact ⟨0, rfl, Nat.zero_le _, here, by simp⟩
      · rename_i notHere
        obtain ⟨offset, rfl, inside, starts, earlier⟩ := ih isFound
        refine ⟨offset + 1, by omega, Nat.succ_le_succ inside, starts, ?_⟩
        intro before isBefore
        cases before with
        | zero => exact notHere
        | succ before => exact earlier before (Nat.lt_of_succ_lt_succ isBefore)

/-- Where nothing is found, nothing occurs. -/
theorem indexFrom_none {needle : Utf16} {text : Utf16} {index : Nat}
    (missing : indexFrom needle index text = none) (offset : Nat) :
    ¬ needle <+: text.drop offset := by
  induction text generalizing index offset with
  | nil =>
      rw [indexFrom] at missing
      split at missing
      · cases missing
      · rename_i nonempty
        rw [List.drop_nil, List.prefix_nil, ← List.isEmpty_iff]
        exact nonempty
  | cons unit rest ih =>
      rw [indexFrom] at missing
      split at missing
      · cases missing
      · rename_i notHere
        cases offset with
        | zero => exact notHere
        | succ offset => exact ih missing offset

/-- `indexOf` finds the first occurrence from a position on. -/
theorem indexOf_some {needle : Utf16} {position found : Nat}
    (isFound : indexOf text needle position = some found) (within : position ≤ text.length) :
    position ≤ found ∧ found ≤ text.length ∧ needle <+: text.drop found ∧
      ∀ between, position ≤ between → between < found → ¬ needle <+: text.drop between := by
  obtain ⟨offset, rfl, inside, starts, earlier⟩ := indexFrom_some isFound
  rw [List.length_drop] at inside
  rw [List.drop_drop] at starts
  refine ⟨Nat.le_add_right _ _, by omega, starts, ?_⟩
  intro between after before
  have gone := earlier (between - position) (by omega)
  rw [List.drop_drop, Nat.add_sub_cancel' after] at gone
  exact gone

/-- `indexOf` misses none. -/
theorem indexOf_none {needle : Utf16} {position : Nat}
    (missing : indexOf text needle position = none) (later : Nat) (after : position ≤ later) :
    ¬ needle <+: text.drop later := by
  have gone := indexFrom_none missing (later - position)
  rw [List.drop_drop, Nat.add_sub_cancel' after] at gone
  exact gone

/-- The next stop at or behind a position. -/
structure NextStop (text : Utf16) (stop : UInt16) (position stopAt : Nat) : Prop where
  ahead : position ≤ stopAt
  isStop : [stop] <+: text.drop stopAt
  isFirst : ∀ between, position ≤ between → between < stopAt → ¬ [stop] <+: text.drop between

theorem drop_eq_slice {start stopAt : Nat} (ahead : start ≤ stopAt) (inside : stopAt ≤ text.length) :
    text.drop start = slice text start stopAt ++ text.drop stopAt := by
  conv_lhs => rw [← List.take_append_drop stopAt text]
  rw [List.drop_append_of_le_length]
  · rfl
  · rw [List.length_take, Nat.min_eq_left inside]
    exact ahead

theorem length_slice {start stopAt : Nat} (inside : stopAt ≤ text.length) :
    (slice text start stopAt).length = stopAt - start := by
  rw [slice, List.length_drop, List.length_take, Nat.min_eq_left inside]

theorem NextStop.inside {position stopAt : Nat} (next : NextStop text stop position stopAt) :
    stopAt < text.length := by
  by_contra outside
  have stops := next.isStop
  rw [List.drop_eq_nil_iff.mpr (Nat.not_lt.mp outside)] at stops
  simp at stops

theorem NextStop.cut {position stopAt : Nat} (next : NextStop text stop position stopAt) :
    Utf16.cutAt stop (text.drop position) =
      some (slice text position stopAt, text.drop (stopAt + 1)) := by
  have inside := next.inside
  obtain ⟨after, isStop⟩ := next.isStop
  have behind : text.drop (stopAt + 1) = after := by
    rw [← List.drop_drop, ← isStop]
    rfl
  rw [Utf16.cutAt_eq_some_iff, behind]
  refine ⟨?_, ?_⟩
  · rw [drop_eq_slice next.ahead inside.le, ← isStop]
    rfl
  · intro member
    obtain ⟨first, last, split⟩ := List.append_of_mem member
    have long : (slice text position stopAt).length = _ := length_slice inside.le
    rw [split, List.length_append, List.length_cons] at long
    apply next.isFirst (position + first.length) (Nat.le_add_right _ _) (by omega)
    rw [← List.drop_drop, drop_eq_slice next.ahead inside.le, split, List.append_assoc, List.drop_left]
    exact ⟨last ++ text.drop stopAt, rfl⟩

/-- Behind the last stop there is no span. -/
theorem spanAt_of_no_stop {behind : Utf16} {position : Nat}
    (missing : ∀ later, position ≤ later → ¬ [stop] <+: text.drop later) (later : Nat)
    (after : position ≤ later + opener.length) :
    spanAt opener stop (stop :: behind) (text.drop later) = none := by
  cases found : spanAt opener stop (stop :: behind) (text.drop later) with
  | none => rfl
  | some body =>
      obtain ⟨rest, whole, -⟩ := spanAt_some found
      refine absurd ?_ (missing (later + (opener.length + body.length)) (by omega))
      rw [← List.drop_drop, whole, List.append_assoc, List.append_assoc, ← List.drop_drop, List.drop_left,
        List.drop_left]
      exact ⟨behind ++ rest, rfl⟩

/-- A match as the source records it. -/
def spanOf (found : Pattern.Match UInt16) : DelimitedSpan := ⟨found.text, (found.group 1).getD []⟩

/-- The loop keeps the next stop it found: no opener before it needs another. -/
theorem spansFrom_eq (behind : Utf16) (rounds position : Nat) (nextStop : Option Nat)
    (within : position ≤ text.length) (enough : text.length < position + rounds)
    (kept : ∀ stopAt ∈ nextStop, [stop] <+: text.drop stopAt ∧
      ∀ between, position + opener.length ≤ between → between < stopAt →
        ¬ [stop] <+: text.drop between) :
    spansFrom text opener stop (stop :: behind) rounds position nextStop =
      (matchedSpans opener stop (stop :: behind) text position).map spanOf := by
  induction rounds generalizing position nextStop with
  | zero => omega
  | succ rounds ih =>
      rw [spansFrom]
      cases opened : indexOf text opener position with
      | none =>
          rw [matchedSpans_nil]
          · rfl
          · intro later after
            rw [spanAt, if_neg (indexOf_none opened later after)]
      | some start =>
          obtain ⟨ahead, inText, opens, earlier⟩ := indexOf_some opened within
          have bodyInside : start + opener.length ≤ text.length := by
            have short := opens.length_le
            rw [List.length_drop] at short
            omega
          rw [matchedSpans_skip ahead inText fun between after before => by
            rw [spanAt, if_neg (earlier between after before)]]
          dsimp only
          have next : ∀ stopAt, (if nextStop.any (start + opener.length ≤ ·) then nextStop
              else indexOf text [stop] (start + opener.length)) = some stopAt →
              NextStop text stop (start + opener.length) stopAt := by
            intro stopAt found
            split at found
            · rename_i cached
              subst found
              obtain ⟨isStop, isFirst⟩ := kept stopAt rfl
              refine ⟨by simpa using cached, isStop, ?_⟩
              intro between after before
              exact isFirst between (by omega) before
            · obtain ⟨after, -, isStop, isFirst⟩ := indexOf_some found bodyInside
              exact ⟨after, isStop, isFirst⟩
          split
          · rename_i noStop
            have missing : indexOf text [stop] (start + opener.length) = none := by
              split at noStop
              · rename_i cached
                rw [noStop] at cached
                simp at cached
              · exact noStop
            rw [matchedSpans_nil]
            · rfl
            · intro later after
              exact spanAt_of_no_stop (indexOf_none missing) later (by omega)
          · rename_i stopAt found
            have isNext := next stopAt found
            have inside := isNext.inside
            have reached := isNext.ahead
            have body : Utf16.cutAt stop ((text.drop start).drop opener.length) =
                some (slice text (start + opener.length) stopAt, text.drop (stopAt + 1)) := by
              rw [List.drop_drop]
              exact isNext.cut
            have closing : stop :: text.drop (stopAt + 1) = text.drop stopAt := by
              obtain ⟨after, isStop⟩ := isNext.isStop
              rw [← List.drop_drop, ← isStop]
              rfl
            by_cases closes : stop :: behind <+: text.drop stopAt
            · have isSpan : spanAt opener stop (stop :: behind) (text.drop start) =
                  some (slice text (start + opener.length) stopAt) := by
                rw [spanAt, if_pos opens, body]
                dsimp only
                rw [closing, if_pos closes]
              have closeInside : stopAt + (stop :: behind).length ≤ text.length := by
                have short := closes.length_le
                rw [List.length_drop] at short
                omega
              have whole : slice text start (stopAt + (stop :: behind).length) =
                  opener ++ (slice text (start + opener.length) stopAt ++ stop :: behind) := by
                obtain ⟨rest, isRest⟩ := closes
                obtain ⟨opened, isOpened⟩ := opens
                have behindOpener : text.drop (start + opener.length) = opened := by
                  rw [← List.drop_drop, ← isOpened, List.drop_left]
                have split : text.drop start = slice text start (stopAt + (stop :: behind).length) ++ _ :=
                  drop_eq_slice (by omega) closeInside
                have tail : text.drop (stopAt + (stop :: behind).length) = rest := by
                  rw [← List.drop_drop, ← isRest, List.drop_left]
                rw [tail, ← isOpened, ← behindOpener, drop_eq_slice reached inside.le, ← isRest,
                  ← List.append_assoc, ← List.append_assoc] at split
                rw [← List.append_assoc]
                exact (List.append_cancel_right split).symm
              have further : start + (opener ++
                  (slice text (start + opener.length) stopAt ++ stop :: behind)).length =
                    stopAt + (stop :: behind).length := by
                rw [List.length_append, List.length_append, length_slice inside.le]
                omega
              rw [if_pos closes, matchedSpans_some isSpan, List.map_cons, further, whole]
              have later := ih (stopAt + (stop :: behind).length) (some stopAt) closeInside
                (by rw [List.length_cons]; omega) (by
                  intro cached isCached
                  cases isCached
                  refine ⟨isNext.isStop, fun between after before => ?_⟩
                  rw [List.length_cons] at after
                  omega)
              rw [later]
              rfl
            · have noSpan : spanAt opener stop (stop :: behind) (text.drop start) = none := by
                rw [spanAt, if_pos opens, body]
                dsimp only
                rw [closing, if_neg closes]
              rw [if_neg closes, matchedSpans_none (by omega) noSpan]
              refine ih (start + 1) (some stopAt) (by omega) (by omega) ?_
              intro cached isCached
              cases isCached
              refine ⟨isNext.isStop, fun between after before => ?_⟩
              exact isNext.isFirst between (by omega) before

end Spans

theorem delimitedSpans_eq (text opener : Utf16) (stop : UInt16) (behind : Utf16) :
    delimitedSpans text opener stop (stop :: behind) =
      ((spanExpression opener stop (stop :: behind)).allMatches text).map spanOf :=
  spansFrom_eq behind (text.length + 1) 0 none (Nat.zero_le _) (by omega) (by simp)

/-! ### Variables of a template -/

/-- What a variable is replaced by. -/
def replacement (resolved : List (Utf16 × Utf16)) (span : DelimitedSpan) : Utf16 :=
  if span.body.head? = some 33 then span.text else (resolved.lookup span.body).getD span.text

/-- A text cut at its spans, each with the text in front of it, and what is left behind the last. -/
structure Cut where
  pieces : List (Utf16 × DelimitedSpan)
  last : Utf16

/-- The text with something in the place of each span. -/
def Cut.fill (cut : Cut) (put : DelimitedSpan → Utf16) : Utf16 :=
  cut.pieces.flatMap (fun piece => piece.1 ++ put piece.2) ++ cut.last

/-- One more unit in front. -/
def Cut.push (unit : UInt16) : Cut → Cut
  | ⟨[], last⟩ => ⟨[], unit :: last⟩
  | ⟨(gap, span) :: pieces, last⟩ => ⟨(unit :: gap, span) :: pieces, last⟩

theorem Cut.spans_push (unit : UInt16) (cut : Cut) :
    (cut.push unit).pieces.map Prod.snd = cut.pieces.map Prod.snd := by
  obtain ⟨_ | ⟨⟨gap, span⟩, pieces⟩, last⟩ := cut
  · rfl
  · rfl

theorem Cut.fill_push (unit : UInt16) (cut : Cut) (put : DelimitedSpan → Utf16) :
    (cut.push unit).fill put = unit :: cut.fill put := by
  obtain ⟨_ | ⟨⟨gap, span⟩, pieces⟩, last⟩ := cut
  · rfl
  · rfl

/-- The spans between a dollar sign with an opening brace and a closing brace are what a substitution
    replaces: everything else stays. -/
theorem exists_cut (text : Utf16) (position : Nat) :
    ∃ cut : Cut,
      cut.pieces.map Prod.snd = (matchedSpans [36, 123] 125 [125] text position).map spanOf ∧
        cut.fill DelimitedSpan.text = text.drop position ∧
          ∀ resolved, cut.fill (replacement resolved) =
            substituteSubVariables (text.drop position) resolved := by
  generalize suffix : text.drop position = ahead
  induction ahead using Template.scan_induction generalizing position with
  | nil =>
      rw [matchedSpans_end (List.drop_eq_nil_iff.mp suffix)]
      refine ⟨⟨[], []⟩, rfl, rfl, fun resolved => ?_⟩
      rw [substituteSubVariables, Template.scan_nil]
      rfl
  | cons unit rest plain ih =>
      have inside : position < text.length := by
        by_contra outside
        rw [List.drop_eq_nil_iff.mpr (Nat.not_lt.mp outside)] at suffix
        cases suffix
      have noSpan : spanAt [36, 123] 125 [125] (text.drop position) = none := by
        rw [suffix, spanAt, if_neg]
        rintro ⟨behind, whole⟩
        have opens : Template.behindOpening (unit :: rest) = some behind :=
          Template.behindOpening_eq_some.mpr whole.symm
        rw [plain] at opens
        cases opens
      obtain ⟨cut, spans, kept, filled⟩ := ih (position + 1) (by rw [← List.drop_drop, suffix]; rfl)
      refine ⟨cut.push unit, ?_, ?_, fun resolved => ?_⟩
      · rw [Cut.spans_push, spans, matchedSpans_none inside noSpan]
      · rw [Cut.fill_push, kept]
      · rw [Cut.fill_push, filled, substituteSubVariables, substituteSubVariables,
          Template.scan_cons _ _ plain]
        rfl
  | closed body after absent ih =>
      have isSpan : spanAt [36, 123] 125 [125] (text.drop position) = some body := by
        have cut : Utf16.cutAt 125 (body ++ 125 :: after) = some (body, after) :=
          Utf16.cutAt_eq_some_iff.mpr ⟨rfl, absent⟩
        rw [suffix, spanAt, if_pos ⟨body ++ 125 :: after, rfl⟩]
        simp only [List.length_cons, List.length_nil, List.drop_succ_cons, List.drop_zero, cut]
        rw [if_pos ⟨after, rfl⟩]
      have onward : text.drop (position + ([36, 123] ++ (body ++ [125])).length) = after := by
        have whole : text.drop position = ([36, 123] ++ (body ++ [125])) ++ after := by
          rw [suffix]
          simp
        rw [← List.drop_drop, whole, List.drop_left]
      obtain ⟨cut, spans, kept, filled⟩ := ih _ onward
      refine ⟨⟨([], ⟨braced body, body⟩) :: cut.pieces, cut.last⟩, ?_, ?_, fun resolved => ?_⟩
      · rw [matchedSpans_some isSpan, List.map_cons, List.map_cons, spans]
        rfl
      · have same : Cut.fill ⟨([], ⟨braced body, body⟩) :: cut.pieces, cut.last⟩ DelimitedSpan.text =
            braced body ++ cut.fill DelimitedSpan.text := by
          simp [Cut.fill]
        rw [same, kept, braced]
        simp
      · have same : Cut.fill ⟨([], ⟨braced body, body⟩) :: cut.pieces, cut.last⟩ (replacement resolved) =
            replacement resolved ⟨braced body, body⟩ ++ cut.fill (replacement resolved) := by
          simp [Cut.fill]
        rw [same, filled, substituteSubVariables, substituteSubVariables,
          Template.scan_closed _ _ absent]
        rfl
  | unclosed rest absent =>
      refine ⟨⟨[], 36 :: 123 :: rest⟩, ?_, rfl, fun resolved => ?_⟩
      · rw [matchedSpans_nil]
        · rfl
        · intro later after
          refine @spanAt_of_no_stop _ _ _ _ position ?_ later (by omega)
          rintro between behind ⟨tail, whole⟩
          apply absent
          have member : 125 ∈ text.drop position := by
            have further : text.drop between <:+ text.drop position := by
              rw [← Nat.add_sub_cancel' behind, ← List.drop_drop]
              exact List.drop_suffix _ _
            exact further.subset (whole ▸ List.mem_cons_self)
          rw [suffix] at member
          simpa using member
      · rw [substituteSubVariables, Template.scan_unclosed _ _ absent, List.flatMap_singleton']
        rfl

/-- On any line the value is what the group of the old expression captured, if that is more than white
    space; the spans are the matches of the old expression, whatever the opener and the closing text; and
    the variables a substitution replaces in a template are its spans. -/
theorem scanners_match_expressions :
    (∀ line : Utf16,
      valueAfterSeparator line =
        ((separatorExpression.exec line).bind fun found => found.group 1).filter
          fun value => !decide (Blank value)) ∧
      (∀ (text opener : Utf16) (stop : UInt16) (behind : Utf16),
        delimitedSpans text opener stop (stop :: behind) =
          ((spanExpression opener stop (stop :: behind)).allMatches text).map spanOf) ∧
      ∀ template : Utf16,
        ∃ cut : Cut,
          cut.pieces.map Prod.snd = delimitedSpans template [36, 123] 125 [125] ∧
            cut.fill DelimitedSpan.text = template ∧
              ∀ resolved, cut.fill (replacement resolved) =
                substituteSubVariables template resolved := by
  refine ⟨?_, delimitedSpans_eq, ?_⟩
  · intro line
    rw [valueAfterSeparator_eq]
    exact (capture_search line 0 none).symm
  · intro template
    obtain ⟨cut, spans, kept, filled⟩ := exists_cut template 0
    refine ⟨cut, ?_, kept, filled⟩
    rw [spans, delimitedSpans_eq]
    rfl

end JumptotechLabs.Verifier
