import Mathlib
import ZoneGuard.Proofs.Markup.FoundTags
import ZoneGuard.Proofs.Markup.Viability

/-!
# Where tags are reported

A tag is reported at the last `<` before its end.  That is where the tag begins unless its
text has another `<` behind the first, as a value or a name may have.  A byte order mark is
not counted, so behind one the search ends three bytes before the end of the tag.
-/

namespace ZoneGuard.Text

theorem byteLength_eq_zero_iff {cs : List Char} : byteLength cs = 0 ↔ cs = [] := by
  cases cs with
  | nil => simp
  | cons c cs =>
      have hpos := c.utf8Size_pos
      simp only [byteLength_cons, reduceCtorEq, iff_false]
      omega

/-- Of two beginnings of a text the one with fewer bytes begins the other. -/
theorem prefix_of_byteLength_le {cs left right : List Char} (hleft : left <+: cs)
    (hright : right <+: cs) (hle : byteLength left ≤ byteLength right) : left <+: right := by
  rcases List.prefix_or_prefix_of_prefix hleft hright with h | ⟨rest, rfl⟩
  · exact h
  · rw [byteLength_append] at hle
    rw [byteLength_eq_zero_iff.1 (by omega : byteLength rest = 0), List.append_nil]

end ZoneGuard.Text

namespace ZoneGuard.Markup

open Text (byteLength)

/-! ## The last bracket -/

theorem tagOffset_go_of_notMem {cs : List Char} (h : '<' ∉ cs) (last? : Option Nat)
    (here : Nat) :
    tagOffset.go (here + byteLength cs) last? here cs = last?.getD (here + byteLength cs) := by
  induction cs generalizing here with
  | nil => exact if_pos rfl
  | cons c cs ih =>
      have hpos := c.utf8Size_pos
      have hc : c ≠ '<' := fun heq => h (heq ▸ List.mem_cons_self)
      rw [tagOffset.go, if_neg (by simp), if_neg (by simp; omega), if_neg hc,
        Text.byteLength_cons, ← Nat.add_assoc]
      exact ih (List.not_mem_of_not_mem_cons h) _

theorem tagOffset_go_of_bracket {left right : List Char} (h : '<' ∉ right) (last? : Option Nat)
    (here : Nat) :
    tagOffset.go (here + byteLength (left ++ '<' :: right)) last? here (left ++ '<' :: right) =
      here + byteLength left := by
  induction left generalizing last? here with
  | nil =>
      have hpos := '<'.utf8Size_pos
      rw [List.nil_append, tagOffset.go, if_neg (by simp), if_neg (by simp; omega), if_pos rfl,
        Text.byteLength_cons, ← Nat.add_assoc, tagOffset_go_of_notMem h]
      rfl
  | cons c left ih =>
      have hpos := c.utf8Size_pos
      rw [List.cons_append, tagOffset.go, if_neg (by simp), if_neg (by simp; omega),
        Text.byteLength_cons, ← Nat.add_assoc, ih, Text.byteLength_cons, Nat.add_assoc]

/-- Inside a character no place is looked for. -/
theorem tagOffset_go_of_forall_ne {cs : List Char} {stop here : Nat}
    (h : ∀ left, left <+: cs → here + byteLength left ≠ stop) (last? : Option Nat) :
    tagOffset.go stop last? here cs = stop := by
  have hhere : here ≠ stop := h [] List.nil_prefix
  induction cs generalizing here last? with
  | nil => exact if_neg hhere
  | cons c cs ih =>
      rw [tagOffset.go, if_neg hhere]
      split
      · rfl
      · have hrest : ∀ left, left <+: cs → here + c.utf8Size + byteLength left ≠ stop := by
          intro left hleft
          have hne := h (c :: left) ((List.prefix_cons_inj c).2 hleft)
          rwa [Text.byteLength_cons, ← Nat.add_assoc] at hne
        exact ih hrest _ (hrest [] List.nil_prefix)

/-- A tag is placed at the last bracket in front of its end. -/
theorem tagOffset_of_bracket {left right : List Char} (h : '<' ∉ right) (rest : List Char) :
    tagOffset (left ++ '<' :: right ++ rest) (byteLength (left ++ '<' :: right)) =
      byteLength left := by
  rw [tagOffset_append (Nat.le_refl _), tagOffset]
  have hgo : tagOffset.go (0 + byteLength (left ++ '<' :: right)) none 0 (left ++ '<' :: right) =
      0 + byteLength left := tagOffset_go_of_bracket h none 0
  rwa [Nat.zero_add, Nat.zero_add] at hgo

/-- Where no bracket is found, the place is the end itself. -/
theorem tagOffset_of_notMem {cs : List Char} (h : '<' ∉ cs) (rest : List Char) :
    tagOffset (cs ++ rest) (byteLength cs) = byteLength cs := by
  rw [tagOffset_append (Nat.le_refl _), tagOffset]
  have hgo := tagOffset_go_of_notMem h none 0
  rwa [Nat.zero_add, Option.getD_none] at hgo

/-- Where no character ends at the end of a tag, the place is the end itself. -/
theorem tagOffset_of_forall_ne {document : List Char} {stop : Nat}
    (h : ∀ left, left <+: document → byteLength left ≠ stop) : tagOffset document stop = stop :=
  tagOffset_go_of_forall_ne (by simpa using h) none

/-- A bracket among characters has a last occurrence. -/
theorem exists_eq_append_bracket {cs : List Char} (h : '<' ∈ cs) :
    ∃ left right, cs = left ++ '<' :: right ∧ '<' ∉ right := by
  obtain ⟨front, back, hreverse, hfront⟩ := List.eq_append_cons_of_mem (List.mem_reverse.2 h)
  refine ⟨back.reverse, front.reverse, ?_, by simpa using hfront⟩
  rw [← List.reverse_reverse cs, hreverse]
  simp

/-- How a place is looked for: at the last bracket in a beginning of the document, or, if that
has no bracket or no beginning ends there, at its end. -/
theorem tagOffset_cases (document : List Char) (stop : Nat) :
    (∃ left right, left ++ '<' :: right <+: document ∧ '<' ∉ right ∧
        byteLength (left ++ '<' :: right) = stop ∧ tagOffset document stop = byteLength left) ∨
      (∃ cs, cs <+: document ∧ '<' ∉ cs ∧ byteLength cs = stop ∧
        tagOffset document stop = stop) ∨
      (∀ left, left <+: document → byteLength left ≠ stop) ∧ tagOffset document stop = stop := by
  by_cases hboundary : ∃ cs, cs <+: document ∧ byteLength cs = stop
  · obtain ⟨cs, ⟨rest, rfl⟩, rfl⟩ := hboundary
    by_cases hbracket : '<' ∈ cs
    · obtain ⟨left, right, rfl, hright⟩ := exists_eq_append_bracket hbracket
      exact Or.inl ⟨left, right, List.prefix_append _ _, hright, rfl,
        tagOffset_of_bracket hright rest⟩
    · exact Or.inr (Or.inl ⟨cs, List.prefix_append _ _, hbracket, rfl,
        tagOffset_of_notMem hbracket rest⟩)
  · have hnone : ∀ left, left <+: document → byteLength left ≠ stop :=
      fun left hleft heq => hboundary ⟨left, hleft, heq⟩
    exact Or.inr (Or.inr ⟨hnone, tagOffset_of_forall_ne hnone⟩)

/-- Of the text of a tag, `unread` bytes at the end left out, only the first character is a
bracket.  If that leaves nothing of it, there is no bracket before it either. -/
def IsLastBracket (unread : Nat) (before text : List Char) : Prop :=
  ∃ seen unseen, text = seen ++ unseen ∧ byteLength unseen = unread ∧
    (seen.count '<' = 1 ∨ seen = [] ∧ '<' ∉ before)

/-- A tag that is placed where it begins has no further bracket in it. -/
theorem isLastBracket_of_tagOffset_eq {before text behind : List Char} {stop unread : Nat}
    (hstop : stop + unread = byteLength (before ++ text))
    (h : tagOffset (before ++ text ++ behind) stop = byteLength before) :
    IsLastBracket unread before text := by
  have hbefore : before <+: before ++ text ++ behind :=
    (List.prefix_append before text).trans (List.prefix_append _ behind)
  have heq_before {left : List Char} (hleft : left <+: before ++ text ++ behind)
      (hlength : byteLength left = byteLength before) : left = before :=
    (Text.prefix_of_byteLength_le hleft hbefore hlength.le).eq_of_length_le
      (Text.prefix_of_byteLength_le hbefore hleft hlength.ge).length_le
  rcases tagOffset_cases (before ++ text ++ behind) stop with
    ⟨left, right, hcs, hright, rfl, hoffset⟩ | ⟨cs, hcs, hbracket, rfl, hoffset⟩ |
      ⟨hnone, hoffset⟩
  · -- The last bracket is that of the tag.
    rw [hoffset] at h
    cases heq_before ((List.prefix_append _ _).trans hcs) h
    have hinside : before ++ '<' :: right <+: before ++ text :=
      Text.prefix_of_byteLength_le hcs (List.prefix_append _ behind) (by omega)
    obtain ⟨unseen, rfl⟩ := (List.prefix_append_right_inj _).1 hinside
    refine ⟨'<' :: right, unseen, rfl, ?_, Or.inl ?_⟩
    · rw [← List.append_assoc, Text.byteLength_append _ unseen] at hstop
      omega
    · rw [List.count_cons_self, List.count_eq_zero_of_not_mem hright]
  · -- The search does not reach into the tag.
    rw [hoffset] at h
    cases heq_before hcs h
    rw [Text.byteLength_append] at hstop
    exact ⟨[], text, rfl, by omega, Or.inr ⟨rfl, hbracket⟩⟩
  · rw [hoffset] at h
    exact absurd h.symm (hnone before hbefore)

theorem tagOffset_eq_of_isLastBracket {before text behind rest : List Char} {stop unread : Nat}
    (hbegin : text = '<' :: rest) (hstop : stop + unread = byteLength (before ++ text))
    (h : IsLastBracket unread before text) :
    tagOffset (before ++ text ++ behind) stop = byteLength before := by
  obtain ⟨seen, unseen, rfl, rfl, hseen⟩ := h
  have hread : stop = byteLength (before ++ seen) := by
    rw [← List.append_assoc, Text.byteLength_append _ unseen] at hstop
    omega
  have hparts : before ++ (seen ++ unseen) ++ behind = before ++ seen ++ (unseen ++ behind) := by
    simp
  rw [hread, hparts]
  rcases hseen with hcount | ⟨rfl, hnone⟩
  · cases seen with
    | nil => cases hcount
    | cons c inner =>
        obtain ⟨rfl, -⟩ := List.cons.inj hbegin
        rw [List.count_cons_self, Nat.add_eq_right, List.count_eq_zero] at hcount
        exact tagOffset_of_bracket hcount _
  · rw [List.append_nil]
    exact tagOffset_of_notMem hnone _

/-- The place reported is that of the tag exactly if the search comes to its bracket first. -/
theorem tagOffset_eq_iff {before text behind rest : List Char} {stop unread : Nat}
    (hbegin : text = '<' :: rest) (hstop : stop + unread = byteLength (before ++ text)) :
    tagOffset (before ++ text ++ behind) stop = byteLength before ↔
      IsLastBracket unread before text :=
  ⟨isLastBracket_of_tagOffset_eq hstop, tagOffset_eq_of_isLastBracket hbegin hstop⟩

/-! ## Places in faults -/

theorem Opens.mem_opening {ts : List Token} {o : OpenElement} {outer : List OpenElement}
    (h : Opens ts (o :: outer)) : ⟨.opening o.name o.attributes false, o.offset⟩ ∈ ts := by
  cases h with
  | cons o houter hinner hdepth => exact List.mem_append_right _ List.mem_cons_self

/-- A fault is reported at the end or at a tag, and what is told to be unclosed is told to
be opened where a tag is reported. -/
theorem Element.exists_mem_of_ofTokens_eq_error {ts : List Token} {stop : Nat}
    {e : LocatedNestingFault} (h : ofTokens ts stop = .error e) :
    (e.offset = stop ∨ ∃ t ∈ ts, t.offset = e.offset) ∧
      ∀ name offset, e.fault = .unclosed name offset →
        ∃ attributes, ⟨.opening name attributes false, offset⟩ ∈ ts := by
  rw [ofTokens] at h
  cases hrun : Builder.run .empty ts with
  | ok b =>
      rw [hrun] at h
      obtain ⟨hfault, hoffset⟩ := (Builder.run_empty_eq_ok_iff.1 hrun).finish_eq_error h
      refine ⟨Or.inl hoffset, fun name offset hname => ?_⟩
      rw [hname] at hfault
      cases hfault with
      | unclosed hopens => exact ⟨_, hopens.mem_opening⟩
  | error e' =>
      rw [hrun] at h
      cases h
      obtain ⟨before, t, after, b, rfl, hbefore, hnext⟩ := Builder.run_eq_error_iff.1 hrun
      obtain ⟨hfault, hoffset⟩ := (Builder.run_empty_eq_ok_iff.1 hbefore).next_eq_error hnext
      refine ⟨Or.inr ⟨t, List.mem_append_right _ List.mem_cons_self, hoffset.symm⟩,
        fun name offset hname => ?_⟩
      obtain ⟨tag, offset'⟩ := t
      rw [hname] at hfault
      generalize tag = written at hfault
      cases hfault

/-! ## Documents -/

theorem IsTagTextBefore.exists_eq_cons {behind text : List Char} {tag : Tag}
    (h : IsTagTextBefore behind text tag) : ∃ rest, text = '<' :: rest := by
  cases h with
  | complete h =>
      cases h with
      | opening => exact ⟨_, rfl⟩
      | closing => exact ⟨_, rfl⟩
  | unfinished => exact ⟨_, rfl⟩

/-- Each tag of a document has its own text there, which begins with its bracket and name.
Its place is reported exactly if the search for a bracket finds that one.  The places that
faults tell of are those reported for tags. -/
theorem tokens_offset_eq_iff {document : List Char} {ts : List Token}
    (h : tokens document = .ok ts) :
    (∀ earlier t later, ts = earlier ++ t :: later → ∃ before text behind,
      document = before ++ text ++ behind ∧ ContainsTags before (earlier.map (·.tag)) ∧
        IsTagTextBefore behind text t.tag ∧ t.tag.beginning <+: text ∧
        (t.offset = byteLength before ↔ IsLastBracket (uncounted document) before text)) ∧
      ∀ stop e, Element.ofTokens ts stop = .error e →
        (e.offset = stop ∨ ∃ t ∈ ts, t.offset = e.offset) ∧
          ∀ name offset, e.fault = .unclosed name offset →
            ∃ attributes, ⟨.opening name attributes false, offset⟩ ∈ ts := by
  refine ⟨fun earlier t later hsplit => ?_,
    fun stop e herror => Element.exists_mem_of_ofTokens_eq_error herror⟩
  obtain ⟨before, text, behind, stop, rfl, hbefore, htext, hstop, hoffset⟩ :=
    exists_isTagTextBefore_of_tokens h hsplit
  obtain ⟨rest, hbracket⟩ := htext.exists_eq_cons
  refine ⟨before, text, behind, rfl, hbefore, htext, htext.isPrefix_beginning, ?_⟩
  rw [hoffset]
  exact tagOffset_eq_iff hbracket hstop

/-- A value with a bracket, an empty tag behind it, and a closing tag of another name. -/
def bracketInValue : String := "<a x='<'><b/></c>"

def bracketInValueTokens : List Token :=
  [⟨.opening "a" [("x", "<")] false, 6⟩, ⟨.opening "b" [] true, 9⟩, ⟨.closing "c", 13⟩]

theorem tokens_offset_eq_iff_bracketInValue :
    tokens bracketInValue.toList = .ok bracketInValueTokens ∧
      (∃ before text behind, bracketInValue.toList = before ++ text ++ behind ∧
        ContainsTags before [] ∧ IsTagTextBefore behind text (.opening "a" [("x", "<")] false) ∧
        (6 = byteLength before ↔ IsLastBracket 0 before text)) ∧
      (∃ before text behind, bracketInValue.toList = before ++ text ++ behind ∧
        ContainsTags before [.opening "a" [("x", "<")] false] ∧
        IsTagTextBefore behind text (.opening "b" [] true) ∧
        (9 = byteLength before ↔ IsLastBracket 0 before text)) ∧
      Element.ofTokens bracketInValueTokens 17 = .error ⟨.mismatch "c" "a", 13⟩ ∧
      ∃ t ∈ bracketInValueTokens, t.offset = 13 := by
  have htokens : tokens bracketInValue.toList = .ok bracketInValueTokens := by decide +kernel
  have herror : Element.ofTokens bracketInValueTokens 17 = .error ⟨.mismatch "c" "a", 13⟩ := rfl
  obtain ⟨htags, hfaults⟩ := tokens_offset_eq_iff htokens
  obtain ⟨before, text, behind, hwhole, hearlier, htext, -, hfirst⟩ := htags [] _ _ rfl
  obtain ⟨before', text', behind', hwhole', hearlier', htext', -, hsecond⟩ := htags [_] _ _ rfl
  have hfault := (hfaults 17 _ herror).1.resolve_left (by decide)
  exact ⟨htokens, ⟨before, text, behind, hwhole, hearlier, htext, hfirst⟩,
    ⟨before', text', behind', hwhole', hearlier', htext', hsecond⟩, herror, hfault⟩

/-- A tag with a bracket in a value is not reported where it begins, neither as a tag nor in
the fault that it is never closed. -/
theorem exists_offset_of_bracket_in_value :
    ∃ (document : String) (tag : Tag), IsTagText document.toList tag ∧
      tokens document.toList = .ok [⟨tag, 6⟩] ∧
      tag.beginning <+: document.toList ∧ ¬ tag.beginning <+: document.toList.drop 6 ∧
      (match Element.ofText document with
        | .error e => e.fault = .nesting (.unclosed "a" 6)
        | .ok _ => False) := by
  have hvalue : ClosesQuotes ('"' :: (['<'] ++ '"' :: [])) :=
    .quoted (Or.inl rfl) (by decide) .nil
  have hcontent : ClosesQuotes ['a', ' ', 'x', '=', '"', '<', '"'] :=
    .plain (by decide) (.plain (by decide) (.plain (by decide) (.plain (by decide) hvalue)))
  have htext : IsTagText "<a x=\"<\">".toList (.opening "a" [("x", "<")] false) := by
    have hread : openingTag ['a', ' ', 'x', '=', '"', '<', '"'] =
        .ok (.opening "a" [("x", "<")] false) := by decide +kernel
    have hchars : "<a x=\"<\">".toList =
        '<' :: (['a', ' ', 'x', '=', '"', '<', '"'] ++ ['>']) := by decide +kernel
    rw [hchars]
    exact .opening (by simp) hcontent hread
  exact ⟨_, _, htext, by decide +kernel, by decide +kernel, by decide +kernel, rfl⟩

end ZoneGuard.Markup
