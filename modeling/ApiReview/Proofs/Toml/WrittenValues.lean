import ApiReview.Proofs.Toml.QuotedTexts
import ApiReview.Toml.FromText

/-!
# Written values are read back

What is written for an entry is a text, a truth value or a list of texts, and it is
read as the value that the entry stands for, up to the end of its line.
-/

namespace ApiReview.Toml

variable {read : Reader Value} {n fuel : Nat} {chars behind others rest : List Char} {d : Char}
  {v : Value} {vs : List Value}

/-- The value that an entry gives to its name. -/
def Entry.value : Entry → Value
  | .text s => .text s
  | .flag b => .flag b
  | .texts items => .list (items.map .text)

theorem writtenText_eq_cons (s : String) :
    ∃ quote others, (writtenText s).toList = quote :: others ∧ (quote = '"' ∨ quote = '\'') := by
  rw [writtenText, String.toList_ofList]
  unfold quotedAs
  cases Quotes.suiting s.toList <;> simp

theorem value_writtenText (n : Nat) (s : String) (noQuote : rest.head? ≠ some '"')
    (noApostrophe : rest.head? ≠ some '\'') :
    value n ((writtenText s).toList ++ rest) = some (.text s, rest) := by
  have read : value.scalar ((writtenText s).toList ++ rest) = some (.text s, rest) := by
    rw [value.scalar, text?_writtenText s noQuote noApostrophe]
    simp
  obtain ⟨quote, others, written, isQuote⟩ := writtenText_eq_cons s
  cases n with
  | zero => exact read
  | succ n =>
      rw [written, List.cons_append] at read ⊢
      rcases isQuote with rfl | rfl <;> exact read

theorem dropGaps_writtenText (s : String) :
    dropGaps false ((writtenText s).toList ++ rest) = (writtenText s).toList ++ rest := by
  obtain ⟨quote, others, written, isQuote⟩ := writtenText_eq_cons s
  rw [written]
  rcases isQuote with rfl | rfl <;> rfl

/-- A written text is no end of a list. -/
theorem begins_writtenText (s : String) (behind : List Char) :
    ∃ quote others, (writtenText s).toList ++ behind = quote :: others ∧ quote ≠ ']' := by
  obtain ⟨quote, others, written, isQuote⟩ := writtenText_eq_cons s
  refine ⟨quote, others ++ behind, by rw [written, List.cons_append], ?_⟩
  rcases isQuote with rfl | rfl <;> decide

theorem items_last (begins : dropGaps false chars = d :: behind) (notEnd : d ≠ ']')
    (first : read (d :: behind) = some (v, others)) (ends : dropGaps false others = ']' :: rest) :
    items read (fuel + 1) chars = some ([v], rest) := by
  rw [items, begins]
  simp [notEnd, first, ends]

theorem items_cons (begins : dropGaps false chars = d :: behind) (notEnd : d ≠ ']')
    (first : read (d :: behind) = some (v, others)) (goesOn : dropGaps false others = ',' :: rest)
    {last : List Char} (further : items read fuel rest = some (vs, last)) :
    items read (fuel + 1) chars = some (v :: vs, last) := by
  rw [items, begins]
  simp [notEnd, first, goesOn, further]

/-- The items behind the opening bracket, each on a line of its own. -/
theorem items_writtenItems (texts : List String) (enough : texts.length < fuel) :
    items (value n) fuel ('\n' :: ((writtenItems texts).toList ++ ']' :: rest)) =
      some (texts.map .text, rest) := by
  induction texts generalizing fuel with
  | nil =>
      cases fuel with
      | zero => cases enough
      | succ fuel =>
          rw [items]
          rfl
  | cons s texts ih =>
      cases fuel with
      | zero => cases enough
      | succ fuel =>
          have tail := ih (Nat.lt_of_succ_lt_succ enough)
          let further := ',' :: '\n' :: ((writtenItems texts).toList ++ ']' :: rest)
          have written : '\n' :: ((writtenItems (s :: texts)).toList ++ ']' :: rest) =
              '\n' :: ' ' :: ' ' :: ' ' :: ' ' :: ((writtenText s).toList ++ further) := by
            simp [writtenItems, further]
          have begins : dropGaps false ('\n' :: ' ' :: ' ' :: ' ' :: ' ' ::
              ((writtenText s).toList ++ further)) = (writtenText s).toList ++ further := by
            simp only [dropGaps, isBlank, beq_self_eq_true, Bool.or_true, Bool.true_or, if_true]
            exact dropGaps_writtenText s
          have first : value n ((writtenText s).toList ++ further) = some (.text s, further) :=
            value_writtenText n s (by simp [further]) (by simp [further])
          obtain ⟨quote, others, starts, notEnd⟩ := begins_writtenText s further
          rw [starts] at begins first
          rw [written, starts]
          exact items_cons begins notEnd first rfl tail

theorem length_le_writtenItems (texts : List String) :
    texts.length ≤ (writtenItems texts).toList.length := by
  induction texts with
  | nil => exact Nat.zero_le _
  | cons s texts ih =>
      simp only [writtenItems, String.toList_append, List.length_append, List.length_cons]
      have mark : ",\n".toList.length = 2 := rfl
      omega

theorem value_list {texts : List String} :
    value (n + 1) ((Entry.texts texts).written.toList ++ '\n' :: rest) =
      some (.list (texts.map .text), '\n' :: rest) := by
  match texts with
  | [] => rfl
  | [s] =>
      have written : (Entry.texts [s]).written.toList ++ '\n' :: rest =
          '[' :: ((writtenText s).toList ++ ']' :: '\n' :: rest) := by simp [Entry.written]
      have begins : dropGaps false ((writtenText s).toList ++ ']' :: '\n' :: rest) =
          (writtenText s).toList ++ ']' :: '\n' :: rest := dropGaps_writtenText s
      have first : value n ((writtenText s).toList ++ ']' :: '\n' :: rest) =
          some (.text s, ']' :: '\n' :: rest) := value_writtenText n s (by simp) (by simp)
      obtain ⟨quote, others, starts, notEnd⟩ := begins_writtenText s (']' :: '\n' :: rest)
      rw [written, value]
      rw [starts] at begins first ⊢
      rw [items_last begins notEnd first rfl]
      rfl
  | s :: t :: texts =>
      have written : (Entry.texts (s :: t :: texts)).written.toList ++ '\n' :: rest =
          '[' :: '\n' :: ((writtenItems (s :: t :: texts)).toList ++ ']' :: '\n' :: rest) := by
        simp [Entry.written]
      have enough : (s :: t :: texts).length <
          ('\n' :: ((writtenItems (s :: t :: texts)).toList ++
            ']' :: '\n' :: rest)).length + 1 := by
        have := length_le_writtenItems (s :: t :: texts)
        simp only [List.length_cons, List.length_append] at this ⊢
        omega
      rw [written, value, items_writtenItems _ enough]
      rfl

theorem value_entry (entry : Entry) :
    value levels (entry.written.toList ++ '\n' :: rest) = some (entry.value, '\n' :: rest) := by
  cases entry with
  | text s => exact value_writtenText levels s (by simp) (by simp)
  | flag b =>
      cases b
      · have written : (Entry.flag false).written.toList ++ '\n' :: rest =
            'f' :: 'a' :: 'l' :: 's' :: 'e' :: '\n' :: rest := rfl
        rw [written]
        rfl
      · rfl
  | texts items => exact value_list

theorem Entry.written_eq_cons (entry : Entry) :
    ∃ c others, entry.written.toList = c :: others ∧ isBlank c = false := by
  match entry with
  | .text s =>
      obtain ⟨quote, others, written, isQuote⟩ := writtenText_eq_cons s
      refine ⟨quote, others, written, ?_⟩
      rcases isQuote with rfl | rfl <;> decide
  | .flag true => exact ⟨_, _, rfl, by decide⟩
  | .flag false => exact ⟨_, _, rfl, by decide⟩
  | .texts [] => exact ⟨_, _, rfl, by decide⟩
  | .texts [s] => exact ⟨'[', _, by simp [Entry.written]; rfl, by decide⟩
  | .texts (s :: t :: others) => exact ⟨'[', _, by simp [Entry.written]; rfl, by decide⟩

theorem return_notMem_writtenItems (texts : List String) :
    '\r' ∉ (writtenItems texts).toList := by
  induction texts with
  | nil => simp [writtenItems]
  | cons s texts ih => simp [writtenItems, return_notMem_writtenText s, ih]

theorem Entry.return_notMem (entry : Entry) : '\r' ∉ entry.written.toList := by
  match entry with
  | .text s => exact return_notMem_writtenText s
  | .flag true | .flag false | .texts [] => decide
  | .texts [s] => simp [Entry.written, return_notMem_writtenText s]
  | .texts (s :: t :: others) =>
      simp [Entry.written, return_notMem_writtenItems (s :: t :: others)]

end ApiReview.Toml
