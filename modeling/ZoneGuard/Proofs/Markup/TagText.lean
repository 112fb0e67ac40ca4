import Mathlib
import ZoneGuard.Markup.Token
import ZoneGuard.Proofs.Markup.AttributeText

/-!
# Tags as they are written

A tag stands between angle brackets, of which the closing one is the first that is not
between quotes.  From such a text, where it stands between the constructs of a document, the
scanner gets the tag.
-/

namespace ZoneGuard.Markup

/-! ## The text of a tag -/

/-- Each quote is closed by the next one of its kind, and every `>` stands between quotes. -/
inductive ClosesQuotes : List Char → Prop
  | nil : ClosesQuotes []
  | plain {c : Char} {cs : List Char} (hc : c ≠ '>' ∧ c ≠ '"' ∧ c ≠ '\'')
      (hrest : ClosesQuotes cs) : ClosesQuotes (c :: cs)
  | quoted {quote : Char} {value cs : List Char} (hquote : quote = '"' ∨ quote = '\'')
      (hvalue : quote ∉ value) (hrest : ClosesQuotes cs) :
      ClosesQuotes (quote :: (value ++ quote :: cs))

theorem ClosesQuotes.append {cs ds : List Char} (h : ClosesQuotes cs) (h' : ClosesQuotes ds) :
    ClosesQuotes (cs ++ ds) := by
  induction h with
  | nil => exact h'
  | plain hc _ ih => exact .plain hc ih
  | quoted hquote hvalue _ ih =>
      rw [List.cons_append, List.append_assoc, List.cons_append]
      exact .quoted hquote hvalue ih

theorem closesQuotes_of_forall {cs : List Char}
    (h : ∀ c ∈ cs, c ≠ '>' ∧ c ≠ '"' ∧ c ≠ '\'') : ClosesQuotes cs := by
  induction cs with
  | nil => exact .nil
  | cons c cs ih =>
      exact .plain (h c List.mem_cons_self) (ih fun d hd => h d (List.mem_cons_of_mem _ hd))

/-- The text is that of the tag.  What follows the opening bracket tells an opening tag from
the other constructs. -/
inductive IsTagText : List Char → Tag → Prop
  | opening {content : List Char} {tag : Tag}
      (hfirst : ∀ c ∈ content.head?, c ≠ '!' ∧ c ≠ '/' ∧ c ≠ '?')
      (hquotes : ClosesQuotes content) (hread : openingTag content = .ok tag) :
      IsTagText ('<' :: (content ++ ['>'])) tag
  | closing {name : List Char} (hname : '>' ∉ name) :
      IsTagText ('<' :: '/' :: (name ++ ['>'])) (closingTag name)

namespace Scanner

/-! ## Runs -/

theorem run_append {s s' : Scanner} {cs : List Char} (h : s.run cs = .ok s')
    (ds : List Char) : s.run (cs ++ ds) = s'.run ds := by
  induction cs generalizing s with
  | nil =>
      cases h
      rfl
  | cons c cs ih =>
      rw [run] at h
      rw [List.cons_append, run]
      cases hnext : s.next c with
      | error e => simp [hnext] at h
      | ok s₁ =>
          rw [hnext] at h
          exact ih h

theorem run_cons {s s' : Scanner} {c : Char} (h : s.next c = .ok s') (cs : List Char) :
    s.run (c :: cs) = s'.run cs := by
  rw [run, h]

/-- Inside a construct of which no `>` among the characters is the end. -/
theorem run_inside {construct : Construct} {cs taken : List Char}
    (hextend : ∀ c ∈ cs, extend construct c = construct)
    (hend : ∀ before after, cs = before ++ '>' :: after →
      isEnd construct (before.reverse ++ taken) = false)
    (start position : Nat) (found : List ScannedTag) :
    run ⟨.inside construct start taken, position, found⟩ cs =
      .ok ⟨.inside construct start (cs.reverse ++ taken), position + Text.byteLength cs,
        found⟩ := by
  induction cs generalizing taken position with
  | nil => rfl
  | cons c cs ih =>
      have hnext : next ⟨.inside construct start taken, position, found⟩ c =
          .ok ⟨.inside construct start (c :: taken), position + c.utf8Size, found⟩ := by
        have hinside : ¬ (c = '>' ∧ isEnd construct taken = true) := by
          rintro ⟨rfl, htrue⟩
          have hfalse := hend [] cs rfl
          rw [List.reverse_nil, List.nil_append, htrue] at hfalse
          cases hfalse
        simp [next, hextend c List.mem_cons_self, hinside]
      have hrest : ∀ before after, cs = before ++ '>' :: after →
          isEnd construct (before.reverse ++ c :: taken) = false := by
        intro before after heq
        simpa using hend (c :: before) after (by rw [heq, List.cons_append])
      rw [run_cons hnext, ih (fun d hd => hextend d (List.mem_cons_of_mem _ hd)) hrest]
      simp [Nat.add_assoc]

/-- Inside the construct, the characters are taken and change nothing else. -/
def Passes (construct : Construct) (cs : List Char) : Prop :=
  ∀ start taken position found, run ⟨.inside construct start taken, position, found⟩ cs =
    .ok ⟨.inside construct start (cs.reverse ++ taken), position + Text.byteLength cs, found⟩

theorem passes_nil (construct : Construct) : Passes construct [] := fun _ _ _ _ => rfl

/-- A scanner stays inside a construct over one part after the other. -/
theorem Passes.append {construct : Construct} {cs ds : List Char} (hcs : Passes construct cs)
    (hds : Passes construct ds) : Passes construct (cs ++ ds) := by
  intro start taken position found
  rw [run_append (hcs start taken position found), hds]
  simp [Nat.add_assoc]

theorem passes_of_forall {construct : Construct} {cs : List Char}
    (h : ∀ c ∈ cs, extend construct c = construct ∧
      (c = '>' → ∀ taken, isEnd construct taken = false)) : Passes construct cs := by
  intro start taken position found
  refine run_inside (fun c hc => (h c hc).1) (fun before after heq => ?_) start position found
  have hmem : '>' ∈ cs := heq ▸ List.mem_append_right _ List.mem_cons_self
  exact (h '>' hmem).2 rfl _

/-! ## Tags -/

theorem next_text_bracket (position : Nat) (found : List ScannedTag) :
    next ⟨.text, position, found⟩ '<' = .ok ⟨.bracket, position + '<'.utf8Size, found⟩ := rfl

theorem next_closingTag_end (start position : Nat) (taken : List Char)
    (found : List ScannedTag) :
    next ⟨.inside .closingTag start taken, position, found⟩ '>' =
      .ok ⟨.text, position + '>'.utf8Size,
        ⟨closingTag (taken.reverse.drop 1), position + '>'.utf8Size⟩ :: found⟩ := rfl

/-- A quoted value is passed over up to its closing quote. -/
theorem run_quoted {quote : Char} {value : List Char} (hvalue : quote ∉ value)
    (start position : Nat) (taken : List Char) (found : List ScannedTag) :
    run ⟨.inside (.openingTag (some quote)) start taken, position, found⟩ value =
      .ok ⟨.inside (.openingTag (some quote)) start (value.reverse ++ taken),
        position + Text.byteLength value, found⟩ := by
  refine passes_of_forall (fun c hc => ⟨?_, fun _ _ => rfl⟩) start taken position found
  have hne : c ≠ quote := fun heq => hvalue (heq ▸ hc)
  simp [extend, hne]

/-- Inside an opening tag, quotes that are closed leave none open. -/
theorem passes_of_closesQuotes {cs : List Char} (h : ClosesQuotes cs) :
    Passes (.openingTag none) cs := by
  induction h with
  | nil => exact passes_nil _
  | @plain c cs hc _ ih =>
      have hfirst : Passes (.openingTag none) [c] :=
        passes_of_forall fun d hd => by
          rw [List.mem_singleton.1 hd]
          exact ⟨by simp [extend, hc], fun heq => absurd heq hc.1⟩
      exact hfirst.append ih
  | @quoted quote value cs hquote hvalue _ ih =>
      have hquoted : Passes (.openingTag none) (quote :: (value ++ [quote])) := by
        intro start taken position found
        have hopen : next ⟨.inside (.openingTag none) start taken, position, found⟩ quote =
            .ok ⟨.inside (.openingTag (some quote)) start (quote :: taken),
              position + quote.utf8Size, found⟩ := by
          rcases hquote with rfl | rfl <;> rfl
        have hclose (position : Nat) (taken : List Char) :
            next ⟨.inside (.openingTag (some quote)) start taken, position, found⟩ quote =
              .ok ⟨.inside (.openingTag none) start (quote :: taken),
                position + quote.utf8Size, found⟩ := by
          simp [next, isEnd, extend]
        rw [run_cons hopen, run_append (run_quoted hvalue _ _ _ _), run_cons (hclose _ _)]
        simp [run, Nat.add_assoc]
      simpa using hquoted.append ih

/-- A bracket begins an opening tag unless it is followed by one of three characters. -/
theorem next_bracket {c : Char} (hc : c ≠ '!' ∧ c ≠ '/' ∧ c ≠ '?') (position : Nat)
    (found : List ScannedTag) :
    next ⟨.bracket, position, found⟩ c =
      next ⟨.inside (.openingTag none) position [], position, found⟩ c := by
  simp only [next, isEnd, Option.isNone_none, Bool.and_true, decide_eq_true_eq, enter, hc,
    if_false, List.reverse_nil]

theorem run_openingTag {content : List Char} {tag : Tag}
    (hfirst : ∀ c ∈ content.head?, c ≠ '!' ∧ c ≠ '/' ∧ c ≠ '?')
    (hquotes : ClosesQuotes content) (hread : openingTag content = .ok tag) (position : Nat)
    (found : List ScannedTag) :
    run ⟨.text, position, found⟩ ('<' :: (content ++ ['>'])) =
      .ok ⟨.text, position + Text.byteLength ('<' :: (content ++ ['>'])),
        ⟨tag, position + Text.byteLength ('<' :: (content ++ ['>']))⟩ :: found⟩ := by
  have hbegin : run ⟨.bracket, position + '<'.utf8Size, found⟩ (content ++ ['>']) =
      run ⟨.inside (.openingTag none) (position + '<'.utf8Size) [], position + '<'.utf8Size,
        found⟩ (content ++ ['>']) := by
    cases content with
    | nil => rw [List.nil_append, run, run, next_bracket (by decide)]
    | cons c content => rw [List.cons_append, run, run, next_bracket (hfirst c rfl)]
  have hend (start position : Nat) :
      next ⟨.inside (.openingTag none) start (content.reverse ++ []), position, found⟩ '>' =
        .ok ⟨.text, position + '>'.utf8Size, ⟨tag, position + '>'.utf8Size⟩ :: found⟩ := by
    simp [next, isEnd, complete, hread, Except.map]
  rw [run_cons (next_text_bracket position found), hbegin,
    run_append (passes_of_closesQuotes hquotes _ _ _ _), run_cons (hend _ _), run]
  simp [Nat.add_assoc]

/-- The name of a closing tag is read up to the bracket. -/
theorem run_closingTag {name : List Char} (hname : '>' ∉ name) (start position : Nat)
    (taken : List Char) (found : List ScannedTag) :
    run ⟨.inside .closingTag start taken, position, found⟩ name =
      .ok ⟨.inside .closingTag start (name.reverse ++ taken),
        position + Text.byteLength name, found⟩ :=
  passes_of_forall (fun _ hc => ⟨rfl, fun heq => absurd (heq ▸ hc) hname⟩) start taken position
    found

/-- The text of a tag between constructs is found to be that tag. -/
theorem run_of_isTagText {text : List Char} {tag : Tag} (h : IsTagText text tag) (position : Nat)
    (found : List ScannedTag) :
    run ⟨.text, position, found⟩ text =
      .ok ⟨.text, position + Text.byteLength text,
        ⟨tag, position + Text.byteLength text⟩ :: found⟩ := by
  cases h with
  | opening hfirst hquotes hread => exact run_openingTag hfirst hquotes hread position found
  | @closing name hname =>
      have hslash (position : Nat) : next ⟨.bracket, position, found⟩ '/' =
          .ok ⟨.inside .closingTag position ['/'], position + '/'.utf8Size, found⟩ := rfl
      rw [run_cons (next_text_bracket position found), run_cons (hslash _),
        run_append (run_closingTag hname _ _ _ _), run_cons (next_closingTag_end _ _ _ _), run]
      simp [Nat.add_assoc]

end Scanner

end ZoneGuard.Markup
