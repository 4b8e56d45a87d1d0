import Targeting.Message.Renderer
import Targeting.Proofs.JsonGrammar

/-!
# Messages with long numbers

Whatever the host answers, a message is rendered. Only json text may be refused,
and only for a whole number with more digits than can be read.

## Main result

`messages_are_rendered`: rendering fails just for json text that comes to such a
number.

## Proof strategy

Nothing that is rendered fails, so a failure is one of reading the text, and the
grammar says which texts are refused.
-/
namespace Targeting.Renderer

/-- The message is a text, and reading it as json comes to a whole number with that many digits,
which are too many. -/
def IsTooLong (count : Nat) (raw : Json) : Prop :=
  ∃ text, raw = .text text ∧ Json.ReachesLong count text.toList

/-- What rendering a message comes to over a cache. -/
def rendered (r : Renderer) (raw : Json) (cache : Selector.Cache) : Except DigitLimit String :=
  ((r.render raw).run.run cache).value.1

theorem isTooLong_of_digits {digits : List Char} (whole : Json.Whole digits)
    (long : Number.maxDigits < digits.length) :
    IsTooLong digits.length (.text (String.ofList digits)) := by
  refine ⟨_, rfl, [], digits, String.toList_ofList, nofun, .number ?_⟩
  exact ⟨false, digits, [], (List.append_nil digits).symm, whole, Json.ends_nil, rfl, long⟩

variable (r : Renderer) (cache : Selector.Cache)

/-- A text is refused where reading it is, and an empty one is not read. -/
theorem rendered_text_eq_error_iff {text : String} {limit : DigitLimit} :
    r.rendered (.text text) cache = .error limit ↔
      Json.parse text = .error (.tooManyDigits limit.digits) := by
  by_cases empty : text = ""
  · subst empty
    exact ⟨nofun, nofun⟩
  · rw [rendered, render, if_neg (by simpa using empty)]
    rcases parsed : Json.parse text with (_ | digits) | value
    · exact ⟨nofun, nofun⟩
    · constructor
      · intro refused
        cases refused
        rfl
      · intro same
        cases same
        rfl
    · exact ⟨nofun, nofun⟩

theorem rendered_eq_error_iff {raw : Json} {limit : DigitLimit} :
    r.rendered raw cache = .error limit ↔ IsTooLong limit.digits raw := by
  cases raw with
  | text text =>
    rw [rendered_text_eq_error_iff, Json.parse_eq_error_iff]
    constructor
    · exact fun reaches => ⟨text, rfl, reaches⟩
    · rintro ⟨_, same, reaches⟩
      cases same
      exact reaches
  | _ => exact ⟨nofun, nofun⟩

/-- Whatever the context and its host answer, rendering comes to a text. It fails just for json
text that comes to a whole number with too many digits, and with their number. -/
theorem messages_are_rendered (r : Renderer) (raw : Json) (cache : Selector.Cache) :
    ((∃ shown, r.rendered raw cache = .ok shown) ↔ ∀ count, ¬ IsTooLong count raw) ∧
      ∀ limit, r.rendered raw cache = .error limit ↔ IsTooLong limit.digits raw := by
  have failed (limit : DigitLimit) :
      r.rendered raw cache = .error limit ↔ IsTooLong limit.digits raw :=
    r.rendered_eq_error_iff cache
  refine ⟨?_, failed⟩
  rcases outcome : r.rendered raw cache with limit | shown
  · exact ⟨nofun, fun fine => absurd ((failed limit).mp outcome) (fine limit.digits)⟩
  · refine ⟨fun _ count long => ?_, fun _ => ⟨shown, rfl⟩⟩
    have refused := (failed ⟨count⟩).mpr long
    rw [outcome] at refused
    cases refused

/-- A row of ones that is one digit too long. -/
theorem messages_are_rendered_of_ones :
    let ones := List.replicate (Number.maxDigits + 1) '1'
    rendered {} (.text (String.ofList ones)) {} = .error ⟨Number.maxDigits + 1⟩ := by
  intro ones
  have count : ones.length = Number.maxDigits + 1 := List.length_replicate
  have whole : Json.Whole ones := by
    refine .inr ⟨⟨by simp [ones], fun c member => ?_⟩, by simp [ones, List.replicate_succ]⟩
    rw [List.eq_of_mem_replicate member]
    rfl
  have long := isTooLong_of_digits whole (by omega)
  rw [count] at long
  exact ((messages_are_rendered {} _ {}).2 ⟨_⟩).mpr long

end Targeting.Renderer
