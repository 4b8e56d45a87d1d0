import Targeting.Proofs.Negation
import Targeting.Proofs.RangeText
import Targeting.Proofs.Tokens

/-!
# Entries of a scores value

An entry names an objective and gives it a range, which may be negated. What one
entry comes to does not depend on those around it: it adds one filter to the
query, or one warning to the report and nothing else.

## Main result

`Query.score_entries_are_independent`.

## Proof strategy

Each step of the reader has its own part of the grammar, so an entry is read just
as the grammar says (`ScoreFilter.gives_iff`, `ScoreFilter.skips_iff`). A list is
then followed entry by entry.
-/
namespace Targeting

open Argument Text

/-! ### Parts of an entry -/

namespace Argument

/-- The text of a value, without the quotes if it stands in quotes. -/
inductive Unquotes : List Char → List Char → Prop where
  | quoted (text : List Char) : Unquotes (inQuotes text) text
  | bare {text : List Char} (unquoted : ∀ inside, text ≠ inQuotes inside) : Unquotes text text

/-- The entry gives a value to an objective, at its first equals sign. -/
inductive Assigns : List Char → List Char → List Char → Prop where
  | intro {key objective : List Char} (unequal : '=' ∉ key) (named : Unquotes (trim key) objective)
      (behind : List Char) : Assigns (key ++ '=' :: behind) objective (trim behind)

/-- The value is negated or not, and what it says. -/
inductive Signs : List Char → Bool → List Char → Prop where
  | plain {value text : List Char} (unquotes : Unquotes value text)
      (unmarked : ∀ rest, text ≠ '!' :: rest) : Signs value false text
  | negated {value rest text : List Char} (marked : Unquotes value ('!' :: rest))
      (unquotes : Unquotes (trim rest) text) : Signs value true text

/-- The argument of a scores value with these entries. -/
inductive IsScores (entries : List Char) : List Char → Prop where
  | intro {key behind : List Char} (named : trim key = "scores".toList)
      (braced : trim behind = inBraces entries) : IsScores entries (key ++ '=' :: behind)

theorem inQuotes_of_getLast? {rest : List Char} (closed : rest.getLast? = some '"') :
    '"' :: rest = inQuotes rest.dropLast := by
  obtain ⟨front, rfl⟩ := List.getLast?_eq_some_iff.mp closed
  rw [List.dropLast_concat, inQuotes]

theorem unquote_of_bare {cs : List Char} (unquoted : ∀ inside, cs ≠ inQuotes inside) :
    unquote cs = cs := by
  unfold unquote
  split
  next rest =>
    rw [if_neg]
    exact fun closed => unquoted _ (inQuotes_of_getLast? closed)
  next => rfl

theorem unquotes_iff {cs text : List Char} : Unquotes cs text ↔ unquote cs = text := by
  constructor
  · intro unquotes
    cases unquotes with
    | quoted text => exact unquote_inQuotes text
    | bare unquoted => exact unquote_of_bare unquoted
  · rintro rfl
    by_cases quoted : ∃ inside, cs = inQuotes inside
    · obtain ⟨inside, rfl⟩ := quoted
      rw [unquote_inQuotes]
      exact .quoted inside
    · have unquoted := not_exists.mp quoted
      rw [unquote_of_bare unquoted]
      exact .bare unquoted

theorem assigns_iff {entry objective value : List Char} : Assigns entry objective value ↔
    '=' ∈ entry ∧ unquote (splitAssignment entry).1 = objective ∧
      (splitAssignment entry).2 = value := by
  constructor
  · intro assigned
    cases assigned with
    | intro unequal named behind =>
      rw [splitAssignment_append unequal]
      exact ⟨by simp, unquotes_iff.mp named, rfl⟩
  · rintro ⟨equal, rfl, rfl⟩
    obtain ⟨key, behind, rfl, unequal⟩ := List.eq_append_cons_of_mem equal
    rw [splitAssignment_append unequal]
    exact .intro unequal (unquotes_iff.mpr rfl) behind

theorem signs_iff {value text : List Char} {negated : Bool} :
    Signs value negated text ↔ splitNegation value = (negated, text) := by
  unfold splitNegation
  constructor
  · intro signed
    cases signed with
    | plain unquotes unmarked =>
      rw [unquotes_iff.mp unquotes]
      split
      next rest => exact absurd rfl (unmarked rest)
      next => rfl
    | negated marked unquotes =>
      rw [unquotes_iff.mp marked]
      simp only [unquotes_iff.mp unquotes]
  · intro read
    split at read
    next rest marked =>
      cases read
      exact .negated (unquotes_iff.mpr marked) (unquotes_iff.mpr rfl)
    next unmarked =>
      cases read
      exact .plain (unquotes_iff.mpr rfl) unmarked

theorem splitAssignment_of_isScores {entries token : List Char} (scores : IsScores entries token) :
    splitAssignment token = ("scores".toList, inBraces entries) := by
  cases scores with
  | @intro key behind named braced =>
    -- An equals sign in the key would not be trimmed away.
    have unequal : '=' ∉ key := by
      rw [← mem_trim_iff (by decide) key, named]
      decide
    rw [splitAssignment_append unequal, named, braced]

end Argument

/-! ### Entries -/

namespace ScoreFilter

/-- What an entry asks for: an objective that is not empty, and a range with a bound. -/
inductive Gives : List Char → ScoreFilter → Prop where
  | intro {entry objective value text : List Char} {range : IntRange} {negated : Bool}
      (assigned : Assigns entry objective value) (named : objective ≠ [])
      (signed : Signs value negated text) (spelled : IntRange.Spells range (trim text))
      (bounded : range.low ≠ none ∨ range.high ≠ none) :
      Gives entry { objective := String.ofList objective, range, negated }

/-- The warning that an entry is skipped with: it names no objective, or it gives the objective
nothing that it could ask for. -/
inductive Skips : List Char → Notice → Prop where
  | nameless {entry : List Char}
      (nameless : ∀ objective value, Assigns entry objective value → objective = []) :
      Skips entry (.malformedScore (String.ofList entry))
  | boundless {entry objective value : List Char} (assigned : Assigns entry objective value)
      (named : objective ≠ []) (refused : ∀ filter, ¬ Gives entry filter) :
      Skips entry (.openScore (String.ofList entry))

/-- What a list of entries comes to: each gives a filter or is skipped with a warning. -/
inductive Reads : List (List Char) → List ScoreFilter → List Notice → Prop where
  | nil : Reads [] [] []
  | used {entry : List Char} {rest : List (List Char)} {filter : ScoreFilter}
      {filters : List ScoreFilter} {warnings : List Notice} (gives : Gives entry filter)
      (behind : Reads rest filters warnings) : Reads (entry :: rest) (filter :: filters) warnings
  | skipped {entry : List Char} {rest : List (List Char)} {warning : Notice}
      {filters : List ScoreFilter} {warnings : List Notice} (skips : Skips entry warning)
      (behind : Reads rest filters warnings) : Reads (entry :: rest) filters (warning :: warnings)

theorem isOpen_eq_false_iff {range : IntRange} :
    range.isOpen = false ↔ range.low ≠ none ∨ range.high ≠ none := by
  rw [Bounds.isOpen, Bool.and_eq_false_iff]
  simp only [Option.isNone_eq_false_iff, Option.isSome_iff_ne_none]

section Entry

variable {entry objective value : List Char}

theorem read_of_nameless
    (nameless : ∀ objective value, Assigns entry objective value → objective = []) :
    ScoreFilter.read entry = .error (.malformedScore (String.ofList entry)) := by
  have unnamed : unquote (splitAssignment entry).1 = [] := by
    by_cases equal : '=' ∈ entry
    · exact nameless _ _ (assigns_iff.mpr ⟨equal, rfl, rfl⟩)
    · rw [splitAssignment_of_unequal equal]
      rfl
  simp only [ScoreFilter.read, unnamed, List.isEmpty_nil, if_true]

theorem read_of_assigns (assigned : Assigns entry objective value) (named : objective ≠ []) :
    ScoreFilter.read entry = (IntRange.parse? (splitNegation value).2).elim
      (.error (.openScore (String.ofList entry))) fun range =>
        if range.isOpen then .error (.openScore (String.ofList entry))
        else .ok
          { objective := String.ofList objective, range, negated := (splitNegation value).1 } := by
  obtain ⟨-, rfl, rfl⟩ := assigns_iff.mp assigned
  unfold ScoreFilter.read
  simp only [List.isEmpty_iff, named, if_false]
  cases IntRange.parse? (splitNegation (splitAssignment entry).2).2 <;> rfl

theorem gives_iff {filter : ScoreFilter} : Gives entry filter ↔ ScoreFilter.read entry = .ok filter := by
  constructor
  · intro gives
    cases gives with
    | intro assigned named signed spelled bounded =>
      rw [read_of_assigns assigned named, signs_iff.mp signed, IntRange.parse?_iff_spells.mpr spelled,
        Option.elim_some, isOpen_eq_false_iff.mpr bounded]
      rfl
  · intro read
    -- Without an objective the value is not looked at.
    by_cases nameless : ∀ objective value, Assigns entry objective value → objective = []
    · rw [read_of_nameless nameless] at read
      cases read
    · simp only [not_forall] at nameless
      obtain ⟨objective, value, assigned, named⟩ := nameless
      rw [read_of_assigns assigned named] at read
      cases parsed : IntRange.parse? (splitNegation value).2 with
      | none =>
        rw [parsed] at read
        cases read
      | some range =>
        rw [parsed, Option.elim_some] at read
        split at read
        next => cases read
        next bounded =>
          cases read
          exact .intro assigned named (signs_iff.mpr rfl) (IntRange.parse?_iff_spells.mp parsed)
            (isOpen_eq_false_iff.mp (Bool.not_eq_true _ ▸ bounded))

/-- An entry with an objective is skipped for its range only. -/
theorem eq_openScore_of_read {warning : Notice} (assigned : Assigns entry objective value)
    (named : objective ≠ []) (read : ScoreFilter.read entry = .error warning) :
    warning = .openScore (String.ofList entry) := by
  rw [read_of_assigns assigned named] at read
  cases parsed : IntRange.parse? (splitNegation value).2 with
  | none =>
    rw [parsed] at read
    cases read
    rfl
  | some range =>
    rw [parsed, Option.elim_some] at read
    split at read
    next =>
      cases read
      rfl
    next => cases read

theorem skips_iff {warning : Notice} :
    Skips entry warning ↔ ScoreFilter.read entry = .error warning := by
  constructor
  · intro skips
    cases skips with
    | nameless nameless => exact read_of_nameless nameless
    | boundless assigned named refused =>
      cases read : ScoreFilter.read entry with
      | ok filter => exact absurd (gives_iff.mpr read) (refused filter)
      | error other => rw [eq_openScore_of_read assigned named read]
  · intro read
    by_cases nameless : ∀ objective value, Assigns entry objective value → objective = []
    · rw [read_of_nameless nameless] at read
      cases read
      exact .nameless nameless
    · simp only [not_forall] at nameless
      obtain ⟨objective, value, assigned, named⟩ := nameless
      rw [eq_openScore_of_read assigned named read]
      refine .boundless assigned named fun filter gives => ?_
      rw [gives_iff.mp gives] at read
      cases read

end Entry

theorem Skips.level {entry : List Char} {warning : Notice} (skips : Skips entry warning) :
    warning.level = .warning := by
  cases skips with
  | nameless => rfl
  | boundless => rfl

/-! ### Lists of entries -/

theorem reads_readAll (entries : List (List Char)) :
    Reads entries (readAll entries).value (readAll entries).notices := by
  induction entries with
  | nil => exact .nil
  | cons entry rest ih =>
    unfold readAll
    cases read : ScoreFilter.read entry with
    | ok filter => exact .used (gives_iff.mpr read) (by simpa using ih)
    | error warning => exact .skipped (skips_iff.mpr read) ih

theorem reads_iff {entries : List (List Char)} {filters : List ScoreFilter} {warnings : List Notice} :
    Reads entries filters warnings ↔ readAll entries = { value := filters, notices := warnings } := by
  constructor
  · intro reads
    induction reads with
    | nil => rfl
    | used gives _ ih =>
      rw [readAll, gives_iff.mp gives]
      apply Logged.ext <;> simp [ih]
    | skipped skips _ ih =>
      rw [readAll, skips_iff.mp skips]
      apply Logged.ext <;> simp [ih, Logged.note]
  · intro same
    have reads := reads_readAll entries
    rwa [same] at reads

theorem Reads.level {entries : List (List Char)} {filters : List ScoreFilter}
    {warnings : List Notice} (reads : Reads entries filters warnings) :
    ∀ warning ∈ warnings, warning.level = .warning := by
  induction reads with
  | nil => exact List.forall_mem_nil _
  | used _ _ ih => exact ih
  | skipped skips _ ih => exact List.forall_mem_cons.mpr ⟨skips.level, ih⟩

theorem readAll_append (first second : List (List Char)) : readAll (first ++ second) = do
    let front ← readAll first
    let behind ← readAll second
    return front ++ behind := by
  induction first with
  | nil => simp [readAll]
  | cons entry rest ih =>
    rw [List.cons_append, readAll, readAll, ih]
    cases ScoreFilter.read entry with
    | ok filter => simp
    | error warning => simp

end ScoreFilter

/-! ### Scores values -/

namespace Query

theorem run_ofArgument_scores (entries : List Char) :
    (Constraint.ofArgument "scores".toList (inBraces entries)).run =
      (fun filters => .ok (.scores filters)) <$> ScoreFilter.readAll (split entries) := by
  have known : Key.ofText? (String.ofList "scores".toList) = some .scores := by decide +kernel
  simp only [Constraint.ofArgument, known, Constraint.read, insideBraces?_inBraces]
  apply Logged.ext
  · rfl
  · simp [Except.map]

/-- A scores value adds the filters of its entries, and the warnings of its entries are all that is
reported. -/
theorem addToken_of_isScores {entries token : List Char} (scores : IsScores entries token)
    (context : String) (q : Query) : q.addToken context token =
      (fun filters => q.add (.scores filters)) <$> ScoreFilter.readAll (split entries) := by
  have filled : "scores".toList.isEmpty = false := by decide
  unfold addToken
  simp only [splitAssignment_of_isScores scores, filled, run_ofArgument_scores]
  apply Logged.ext
  · rfl
  · simp

/-- Each entry of a scores value adds the one filter that it gives, or else one warning, whatever the
query is and whatever stands around the entry. So the entries before a comma at a level place and
those behind it may be given in two arguments, one after the other. -/
theorem score_entries_are_independent (context : String) (q : Query) (entries token : List Char)
    (scores : IsScores entries token) :
    (∃ filters warnings,
      (∀ otherFilters otherWarnings,
        ScoreFilter.Reads (split entries) otherFilters otherWarnings ↔
          otherFilters = filters ∧ otherWarnings = warnings) ∧
      q.addToken context token =
        { value := { q with scores := q.scores ++ filters }, notices := warnings } ∧
      ∀ warning ∈ warnings, warning.level = .warning) ∧
    ∀ first second firstToken secondToken, entries = first ++ ',' :: second → IsBalanced first →
      IsScores first firstToken → IsScores second secondToken →
      q.addToken context token =
        q.addToken context firstToken >>= fun next => next.addToken context secondToken := by
  refine ⟨⟨(ScoreFilter.readAll (split entries)).value, (ScoreFilter.readAll (split entries)).notices,
    fun filters warnings => ?_, ?_, ?_⟩, ?_⟩
  · rw [ScoreFilter.reads_iff]
    constructor
    · intro same
      rw [same]
      exact ⟨rfl, rfl⟩
    · rintro ⟨rfl, rfl⟩
      rfl
  · rw [addToken_of_isScores scores]
    apply Logged.ext
    · rfl
    · simp
  · exact (ScoreFilter.reads_readAll (split entries)).level
  · rintro first second firstToken secondToken rfl balanced firstScores secondScores
    -- The comma separates, and what is read behind it does not depend on what was added before.
    rw [addToken_of_isScores scores, addToken_of_isScores firstScores,
      split_append_comma ((isLevel_after_iff first).mpr balanced), ScoreFilter.readAll_append]
    simp only [addToken_of_isScores secondScores]
    apply Logged.ext
    · simp [add]
    · simp

/-- Of four entries one has no objective and one has no bound. -/
theorem score_entries_are_independent_of_four :
    let first := "k=1..,=3".toList
    let second := "\"o\"=!5,a=..".toList
    let scores (entries : List Char) := argument "scores" (inBraces entries)
    ScoreFilter.Reads (split (first ++ ',' :: second))
        [{ objective := "k", range := ⟨some 1, none⟩ },
          { objective := "o", range := .exactly 5, negated := true }]
        [.malformedScore "=3", .openScore "a=.."] ∧
      addToken "" {} (scores (first ++ ',' :: second)) =
        addToken "" {} (scores first) >>= fun next => next.addToken "" (scores second) := by
  intro first second scores
  have argued (entries : List Char) : IsScores entries (scores entries) :=
    .intro (by decide) (trim_between (by decide) (by decide) entries)
  obtain ⟨⟨filters, warnings, reads, whole, -⟩, apart⟩ :=
    score_entries_are_independent "" {} (first ++ ',' :: second) _ (argued _)
  have balanced : IsBalanced first := by decide +kernel
  refine ⟨(reads _ _).mpr ⟨?_, ?_⟩, apart first second _ _ rfl balanced (argued first) (argued second)⟩
  · have added : (addToken "" {} (scores (first ++ ',' :: second))).value.scores = filters := by
      rw [whole]
      rfl
    rw [← added]
    decide +kernel
  · have reported : (addToken "" {} (scores (first ++ ',' :: second))).notices = warnings := by
      rw [whole]
    rw [← reported]
    decide +kernel

end Query

end Targeting
