import Mathlib
import ZoneGuard.Proofs.Markup.OpenElements
import ZoneGuard.Proofs.Markup.FoundTags
import ZoneGuard.Proofs.RelationTable

/-!
# What is invisible between tags

Text, comments and character data sections are passed over: from the place between two
constructs where they begin the scanner comes to such a place again, with no new tag.  It
has counted more bytes then.  But what it does afterwards depends on its count only in the
places that it reports, and a table of relations has no places.
-/

namespace ZoneGuard.Markup

/-! ## Counts of bytes do not matter -/

/-- The modes are the same but for the place where a construct begins. -/
inductive Mode.Alike : Mode → Mode → Prop
  | text : Alike .text .text
  | bracket : Alike .bracket .bracket
  | bang (start start' : Nat) : Alike (.bang start) (.bang start')
  | inside (construct : Construct) (start start' : Nat) (taken : List Char) :
      Alike (.inside construct start taken) (.inside construct start' taken)

namespace Scanner

/-- The scanners have found the same tags and are in the same mode.  They may have counted
differently. -/
structure Alike (s s' : Scanner) : Prop where
  mode : s.mode.Alike s'.mode
  found : s.found.map (·.tag) = s'.found.map (·.tag)

/-- Both scanners go on alike, or neither of them does. -/
inductive GoAlike : Except ScanFault Scanner → Except ScanFault Scanner → Prop
  | ok {s s' : Scanner} (h : Alike s s') : GoAlike (.ok s) (.ok s')
  | error (e e' : ScanFault) : GoAlike (.error e) (.error e')

/-- Whether a construct is complete does not depend on where it ends. -/
theorem complete_cases (construct : Construct) (stop stop' : Nat) (content : List Char) :
    (∃ tags tags', complete construct stop content = .ok tags ∧
        complete construct stop' content = .ok tags' ∧
        tags.map (·.tag) = tags'.map (·.tag)) ∨
      ∃ e e', complete construct stop content = .error e ∧
        complete construct stop' content = .error e' := by
  have hskipped {x x' : Except ScanFault Unit}
      (h : (x = .ok () ∧ x' = .ok ()) ∨ ∃ e e', x = .error e ∧ x' = .error e') :
      (∃ tags tags', x.map (fun _ => ([] : List ScannedTag)) = .ok tags ∧
          x'.map (fun _ => ([] : List ScannedTag)) = .ok tags' ∧
          tags.map (·.tag) = tags'.map (·.tag)) ∨
        ∃ e e', x.map (fun _ => ([] : List ScannedTag)) = .error e ∧
          x'.map (fun _ => ([] : List ScannedTag)) = .error e' := by
    rcases h with ⟨rfl, rfl⟩ | ⟨e, e', rfl, rfl⟩
    · exact Or.inl ⟨[], [], rfl, rfl, rfl⟩
    · exact Or.inr ⟨e, e', rfl, rfl⟩
  cases construct with
  | closingTag => exact Or.inl ⟨_, _, rfl, rfl, rfl⟩
  | openingTag quote? =>
      simp only [complete]
      cases openingTag content with
      | ok tag => exact Or.inl ⟨_, _, rfl, rfl, rfl⟩
      | error e => exact Or.inr ⟨_, _, rfl, rfl⟩
  | comment => exact hskipped (by simp only [check]; split <;> simp)
  | dataSection => exact hskipped (by simp only [check]; split <;> simp)
  | documentType => exact hskipped (by simp only [check]; split <;> [simp; split <;> simp])
  | instruction => exact hskipped (by simp only [check]; split <;> simp)

theorem goAlike_complete (construct : Construct) (stop stop' : Nat) (content : List Char)
    {found found' : List ScannedTag} (h : found.map (·.tag) = found'.map (·.tag)) :
    GoAlike ((complete construct stop content).map fun tags => ⟨.text, stop, tags ++ found⟩)
      ((complete construct stop' content).map fun tags => ⟨.text, stop', tags ++ found'⟩) := by
  rcases complete_cases construct stop stop' content with
    ⟨tags, tags', htags, htags', hsame⟩ | ⟨e, e', he, he'⟩
  · rw [htags, htags']
    exact .ok ⟨.text, by rw [List.map_append, List.map_append, hsame, h]⟩
  · rw [he, he']
    exact .error e e'

/-- One character takes scanners that are alike to scanners that are alike. -/
theorem Alike.next {s s' : Scanner} (h : Alike s s') (c : Char) :
    GoAlike (s.next c) (s'.next c) := by
  obtain ⟨mode, position, found⟩ := s
  obtain ⟨mode', position', found'⟩ := s'
  obtain ⟨hmode, hfound⟩ := h
  cases hmode with
  | text =>
      by_cases hc : c = '<'
      · simp only [Scanner.next, hc, if_true]
        exact .ok ⟨.bracket, hfound⟩
      · simp only [Scanner.next, hc, if_false]
        exact .ok ⟨.text, hfound⟩
  | bracket =>
      by_cases hc : c = '>'
      · simp only [Scanner.next, hc, if_true]
        exact goAlike_complete _ _ _ _ hfound
      · simp only [Scanner.next, hc, if_false]
        refine .ok ⟨?_, hfound⟩
        unfold enter
        split
        · exact .bang _ _
        · split
          · exact .inside _ _ _ _
          · split <;> exact .inside _ _ _ _
  | bang start start' =>
      simp only [Scanner.next, enterDeclaration]
      split
      · exact .ok ⟨.inside _ _ _ _, hfound⟩
      · split
        · exact .ok ⟨.inside _ _ _ _, hfound⟩
        · split
          · exact .ok ⟨.inside _ _ _ _, hfound⟩
          · exact .error _ _
  | inside construct start start' taken =>
      by_cases hend : (c = '>' && isEnd construct taken) = true
      · simp only [Scanner.next, hend, if_true]
        exact goAlike_complete _ _ _ _ hfound
      · simp only [Scanner.next, hend, Bool.false_eq_true, if_false]
        exact .ok ⟨.inside _ _ _ _, hfound⟩

/-- Scanners that are alike remain so, whatever they read. -/
theorem Alike.run {s s' : Scanner} (h : Alike s s') (cs : List Char) :
    GoAlike (s.run cs) (s'.run cs) := by
  induction cs generalizing s s' with
  | nil => exact .ok h
  | cons c cs ih =>
      have hnext := h.next c
      rw [Scanner.run, Scanner.run]
      generalize s.next c = r at hnext ⊢
      generalize s'.next c = r' at hnext ⊢
      cases hnext with
      | ok hbetween => exact ih hbetween
      | error e e' => exact .error e e'

theorem alike_text (position position' : Nat) (found : List ScannedTag) :
    Alike ⟨.text, position, found⟩ ⟨.text, position', found⟩ := ⟨.text, rfl⟩

/-- The tags of the document of which the scanner has still to read the characters. -/
def tagsBehind (s : Scanner) (cs : List Char) : Option (List Tag) :=
  match s.run cs with
  | .error _ => none
  | .ok s => s.finish.toOption.map (·.map (·.tag))

theorem tagsBehind_append {s s' : Scanner} {cs : List Char} (h : s.run cs = .ok s')
    (ds : List Char) : s.tagsBehind (cs ++ ds) = s'.tagsBehind ds := by
  rw [tagsBehind, tagsBehind, run_append h]

theorem tagsBehind_append_of_error {s : Scanner} {cs : List Char} {e : ScanFault}
    (h : s.run cs = .error e) (ds : List Char) : s.tagsBehind (cs ++ ds) = none := by
  cases hwhole : s.run (cs ++ ds) with
  | error e' => rw [tagsBehind, hwhole]
  | ok s' =>
      obtain ⟨between, hbetween, -⟩ := run_append_eq_ok_iff.1 hwhole
      cases h.symm.trans hbetween

theorem Alike.finish {s s' : Scanner} (h : Alike s s') :
    s.finish.toOption.map (·.map (·.tag)) = s'.finish.toOption.map (·.map (·.tag)) := by
  obtain ⟨mode, position, found⟩ := s
  obtain ⟨mode', position', found'⟩ := s'
  obtain ⟨hmode, hfound⟩ := h
  have hreverse : found.reverse.map (·.tag) = found'.reverse.map (·.tag) := by
    rw [List.map_reverse, List.map_reverse, hfound]
  cases hmode with
  | text => exact congrArg some hreverse
  | bracket => exact congrArg some hreverse
  | bang start start' => rfl
  | inside construct start start' taken =>
      cases construct with
      | comment => rfl
      | dataSection => rfl
      | documentType => rfl
      | openingTag quote? => rfl
      | closingTag =>
          rw [finish_closingTag, finish_closingTag]
          refine congrArg some ?_
          dsimp only
          rw [List.map_append, List.map_append, hreverse]
          rfl
      | instruction =>
          simp only [Scanner.finish]
          rcases complete_cases .instruction position position' taken.reverse with
            ⟨tags, tags', htags, htags', hsame⟩ | ⟨e, e', he, he'⟩
          · rw [htags, htags']
            refine congrArg some ?_
            dsimp only
            rw [List.map_reverse, List.map_reverse, List.map_append, List.map_append, hsame, hfound]
          · rw [he, he']
            rfl

/-- Scanners that are alike find the same tags in what follows. -/
theorem Alike.tagsBehind_eq {s s' : Scanner} (h : Alike s s') (cs : List Char) :
    s.tagsBehind cs = s'.tagsBehind cs := by
  have hrun := h.run cs
  rw [tagsBehind, tagsBehind]
  generalize s.run cs = r at hrun ⊢
  generalize s'.run cs = r' at hrun ⊢
  cases hrun with
  | ok hend => exact hend.finish
  | error e e' => rfl

end Scanner

/-! ## What is passed over -/

/-- The characters are text, a comment or a character data section. -/
inductive IsPassedOver : List Char → Prop
  | text {cs : List Char} (h : '<' ∉ cs) : IsPassedOver cs
  | comment {cs : List Char} (h : ¬ "-->".toList <:+: cs) :
      IsPassedOver ("<!--".toList ++ cs ++ "-->".toList)
  | dataSection {cs : List Char} (h : ¬ "]]>".toList <:+: cs) :
      IsPassedOver ("<![CDATA[".toList ++ cs ++ "]]>".toList)

/-- What is in front of a character stays so if characters behind it are left out. -/
theorem exists_eq_of_append_eq_append_cons {α : Type} {c : α} {left right before after : List α}
    (hright : c ∉ right) (h : left ++ right = before ++ c :: after) :
    ∃ rest, left = before ++ c :: rest := by
  rcases List.append_eq_append_iff.1 h with ⟨middle, -, rfl⟩ | ⟨middle, rfl, hbehind⟩
  · exact absurd (List.mem_append_right _ List.mem_cons_self) hright
  · cases middle with
    | nil =>
        rw [List.nil_append] at hbehind
        exact absurd (hbehind ▸ List.mem_cons_self) hright
    | cons d middle => exact ⟨middle, by rw [(List.cons.inj hbehind).1]⟩

/-- A mark before a `>` that lies behind the opening lies in what follows the opening. -/
theorem infix_of_suffix_of_length_le {mark opening cs before after : List Char}
    (h : opening ++ cs = before ++ '>' :: after) (hmark : mark <:+ before)
    (hlength : opening.length + mark.length ≤ before.length) : mark ++ ['>'] <:+: cs := by
  obtain ⟨front, rfl⟩ := hmark
  rw [List.length_append] at hlength
  have hopening : opening <+: front := by
    refine List.prefix_of_prefix_length_le (List.prefix_append opening cs) ?_ (by omega)
    rw [h, List.append_assoc]
    exact List.prefix_append _ _
  obtain ⟨rest, rfl⟩ := hopening
  refine ⟨rest, after, ?_⟩
  rw [List.append_assoc, List.append_assoc] at h
  rw [List.append_cancel_left h]
  simp

namespace Scanner

/-- The end of a construct that is passed over, if nothing is wrong with it. -/
theorem next_end {construct : Construct} {taken : List Char} (hend : isEnd construct taken = true)
    {start position : Nat}
    (hcomplete : complete construct (position + '>'.utf8Size) taken.reverse = .ok [])
    (found : List ScannedTag) :
    next ⟨.inside construct start taken, position, found⟩ '>' =
      .ok ⟨.text, position + '>'.utf8Size, found⟩ := by
  simp [next, hend, hcomplete, Except.map]

/-- A comment ends at the first `-->` behind its beginning. -/
theorem run_comment {cs : List Char} (h : ¬ "-->".toList <:+: cs) (position : Nat)
    (found : List ScannedTag) :
    ∃ stop, run ⟨.text, position, found⟩ ("<!--".toList ++ cs ++ "-->".toList) =
      .ok ⟨.text, stop, found⟩ := by
  have hopen : run ⟨.text, position, found⟩ "<!-".toList =
      .ok ⟨.inside .comment (position + 1) ['-', '!'], position + 3, found⟩ := rfl
  have hinside : ∀ before after, ['-'] ++ cs ++ ['-', '-'] = before ++ '>' :: after →
      isEnd .comment (before.reverse ++ ['-', '!']) = false := by
    intro before after heq
    rw [Bool.eq_false_iff]
    intro htrue
    simp only [isEnd, Bool.and_eq_true, decide_eq_true_eq, List.length_append,
      List.length_reverse, List.length_cons, List.length_nil, List.isPrefixOf_iff_prefix] at htrue
    obtain ⟨hlength, hmark⟩ := htrue
    obtain ⟨rest, hsplit⟩ := exists_eq_of_append_eq_append_cons (by decide) heq
    have hmark : ['-', '-'] <:+ before := by
      rw [← List.reverse_prefix]
      refine List.prefix_of_prefix_length_le hmark (List.prefix_append _ _) ?_
      simp only [List.length_reverse, List.length_cons, List.length_nil]
      omega
    exact h (infix_of_suffix_of_length_le hsplit hmark (by simp; omega))
  have hclose : isEnd .comment ((['-'] ++ cs ++ ['-', '-']).reverse ++ ['-', '!']) = true := by
    simp [isEnd]
  refine ⟨?stop, ?read⟩
  case read =>
    have hparts : "<!--".toList ++ cs ++ "-->".toList =
        "<!-".toList ++ ((['-'] ++ cs ++ ['-', '-']) ++ ['>']) := by simp
    rw [hparts, run_append hopen, run_append (run_inside (fun _ _ => rfl) hinside _ _ _),
      run_cons (next_end hclose (by simp [complete, check, Except.map]) _), run]

/-- A character data section ends at the first `]]>` behind its beginning. -/
theorem run_dataSection {cs : List Char} (h : ¬ "]]>".toList <:+: cs) (position : Nat)
    (found : List ScannedTag) :
    ∃ stop, run ⟨.text, position, found⟩ ("<![CDATA[".toList ++ cs ++ "]]>".toList) =
      .ok ⟨.text, stop, found⟩ := by
  have hopen : run ⟨.text, position, found⟩ "<![".toList =
      .ok ⟨.inside .dataSection (position + 1) ['[', '!'], position + 3, found⟩ := rfl
  have hinside : ∀ before after, "CDATA[".toList ++ cs ++ [']', ']'] = before ++ '>' :: after →
      isEnd .dataSection (before.reverse ++ ['[', '!']) = false := by
    intro before after heq
    rw [Bool.eq_false_iff]
    intro htrue
    rw [isEnd, List.isPrefixOf_iff_prefix] at htrue
    obtain ⟨rest, hsplit⟩ := exists_eq_of_append_eq_append_cons (by decide) heq
    obtain ⟨front, rfl⟩ : [']', ']'] <:+ before := by
      rw [← List.reverse_prefix]
      cases hreverse : before.reverse with
      | nil => exact absurd (hreverse ▸ htrue) (by decide)
      | cons c cs =>
          cases cs with
          | nil => simp [hreverse] at htrue
          | cons d cs => simpa [hreverse] using htrue
    -- The brackets are not among those that open the section.
    have hlength : "CDATA[".toList.length ≤ front.length := by
      by_contra hshort
      have hbracket : front ++ [']'] <+: "CDATA[".toList := by
        refine List.prefix_of_prefix_length_le ?_ (List.prefix_append _ cs) ?_
        · rw [hsplit]
          exact ⟨']' :: '>' :: rest, by simp⟩
        · rw [List.length_append, List.length_singleton]
          omega
      exact absurd (hbracket.mem (List.mem_append_right _ List.mem_cons_self)) (by decide)
    refine h (infix_of_suffix_of_length_le hsplit (List.suffix_append _ _) ?_)
    rw [List.length_append]
    omega
  have hclose : isEnd .dataSection
      (("CDATA[".toList ++ cs ++ [']', ']']).reverse ++ ['[', '!']) = true := by
    simp [isEnd]
  refine ⟨?stop, ?read⟩
  case read =>
    have hparts : "<![CDATA[".toList ++ cs ++ "]]>".toList =
        "<![".toList ++ (("CDATA[".toList ++ cs ++ [']', ']']) ++ ['>']) := by simp
    rw [hparts, run_append hopen, run_append (run_inside (fun _ _ => rfl) hinside _ _ _),
      run_cons (next_end hclose (by simp [complete, check, beginsWith, Except.map]) _), run]

/-- What is passed over leads from one place between constructs to another. -/
theorem exists_run_of_isPassedOver {cs : List Char} (h : IsPassedOver cs) (position : Nat)
    (found : List ScannedTag) :
    ∃ stop, run ⟨.text, position, found⟩ cs = .ok ⟨.text, stop, found⟩ := by
  cases h with
  | text htext => exact ⟨_, run_text htext position found⟩
  | comment hcomment => exact run_comment hcomment position found
  | dataSection hsection => exact run_dataSection hsection position found

end Scanner

theorem IsPassedOver.withoutMark {cs : List Char} (h : IsPassedOver cs) :
    IsPassedOver (withoutMark cs) := by
  cases h with
  | text htext =>
      cases cs with
      | nil => exact .text htext
      | cons c cs =>
          rw [withoutMark_cons]
          split
          · exact .text (List.not_mem_of_not_mem_cons htext)
          · exact .text htext
  | comment hcomment => exact .comment hcomment
  | dataSection hsection => exact .dataSection hsection

/-! ## Insertions -/

/-- No construct reaches over the end of the characters: where the scanner can read them
all, it is between two constructs then. -/
def EndsBetween (cs : List Char) : Prop :=
  ∀ s, Scanner.initial.run (withoutMark cs) = .ok s → s.mode = .text

/-- A text that contains tags ends between constructs. -/
theorem ContainsTags.endsBetween {cs : List Char} {tags : List Tag} (h : ContainsTags cs tags) :
    EndsBetween cs := by
  obtain ⟨s, hrun, hmode, -⟩ := h
  intro s' hrun'
  cases hrun.symm.trans hrun'
  exact hmode

/-- A tag leads from one place between constructs to another. -/
theorem EndsBetween.append {before text : List Char} {tag : Tag} (h : EndsBetween before)
    (htext : IsTagText text tag) : EndsBetween (before ++ text) := by
  intro s hrun
  rw [htext.withoutMark_append] at hrun
  obtain ⟨⟨mode, position, found⟩, hbefore, hbehind⟩ := Scanner.run_append_eq_ok_iff.1 hrun
  cases h _ hbefore
  cases (Scanner.run_of_isTagText htext position found).symm.trans hbehind
  rfl

/-- Where a tag of a document begins, and where it ends, nothing reaches over. -/
theorem exists_endsBetween_of_tokens {document : List Char} {ts : List Token}
    (h : tokens document = .ok ts) {earlier later : List Token} {t : Token}
    (hsplit : ts = earlier ++ t :: later) :
    ∃ before text behind, document = before ++ text ++ behind ∧
      IsTagTextBefore behind text t.tag ∧ EndsBetween before ∧
      (behind ≠ [] → EndsBetween (before ++ text)) := by
  obtain ⟨before, text, behind, -, hdocument, hbefore, htext, -, -⟩ :=
    exists_isTagTextBefore_of_tokens h hsplit
  refine ⟨before, text, behind, hdocument, htext, hbefore.endsBetween, fun hbehind => ?_⟩
  generalize t.tag = tag at htext
  cases htext with
  | complete htext => exact hbefore.endsBetween.append htext
  | unfinished hname hnothing => exact absurd hnothing hbehind

/-- The tags of a document, if there are no faults. -/
def tags? (document : List Char) : Option (List Tag) :=
  (scan document).toOption.map (·.map (·.tag))

/-- The tags of a document are found from its beginning on. -/
theorem tags?_eq_tagsBehind (document : List Char) :
    tags? document = Scanner.initial.tagsBehind (withoutMark document) := by
  rw [tags?, scan, Scanner.tagsBehind]
  cases Scanner.initial.run (withoutMark document) with
  | error e => rfl
  | ok s => rfl

/-- A byte order mark is text. -/
theorem tagsBehind_withoutMark (position : Nat) (cs : List Char) :
    Scanner.initial.tagsBehind (withoutMark cs) =
      (⟨.text, position, []⟩ : Scanner).tagsBehind cs := by
  have hcount (position position' : Nat) (cs : List Char) :
      (⟨.text, position, []⟩ : Scanner).tagsBehind cs =
        (⟨.text, position', []⟩ : Scanner).tagsBehind cs :=
    (Scanner.alike_text position position' []).tagsBehind_eq cs
  cases cs with
  | nil => exact hcount _ _ _
  | cons c cs =>
      rw [withoutMark_cons]
      split
      · next hmark =>
        subst hmark
        have hnext : Scanner.next ⟨.text, position, []⟩ '\uFEFF' =
            .ok ⟨.text, position + '\uFEFF'.utf8Size, []⟩ := rfl
        rw [Scanner.tagsBehind, Scanner.tagsBehind, Scanner.run_cons hnext]
        exact hcount _ _ _
      · exact hcount _ _ _

/-- What is passed over between two constructs adds no tag and takes none away. -/
theorem tags?_insert {before inserted behind : List Char} (hcut : EndsBetween before)
    (h : IsPassedOver inserted) :
    tags? (before ++ inserted ++ behind) = tags? (before ++ behind) := by
  rw [tags?_eq_tagsBehind, tags?_eq_tagsBehind]
  by_cases hempty : before = []
  · subst hempty
    rw [List.nil_append, List.nil_append]
    by_cases hnothing : inserted = []
    · rw [hnothing, List.nil_append]
    · obtain ⟨stop, hrun⟩ := Scanner.exists_run_of_isPassedOver h.withoutMark 0 []
      rw [withoutMark_append hnothing, Scanner.initial, Scanner.tagsBehind_append hrun,
        ← tagsBehind_withoutMark]
      rfl
  · rw [List.append_assoc, withoutMark_append hempty, withoutMark_append hempty]
    cases hbefore : Scanner.initial.run (withoutMark before) with
    | error e =>
        rw [Scanner.tagsBehind_append_of_error hbefore, Scanner.tagsBehind_append_of_error hbefore]
    | ok s =>
        obtain ⟨mode, position, found⟩ := s
        cases hcut _ hbefore
        obtain ⟨stop, hrun⟩ := Scanner.exists_run_of_isPassedOver h position found
        rw [Scanner.tagsBehind_append hbefore, Scanner.tagsBehind_append hbefore,
          Scanner.tagsBehind_append hrun]
        exact (Scanner.alike_text stop position found).tagsBehind_eq behind

/-! ## Tables -/

/-- The tags that elements flatten to spell them. -/
theorem Flattens.spells {ts : List Token} {es : List Element} (h : Flattens ts es) :
    Spells (ts.map (·.tag)) es := by
  induction h with
  | nil => exact .nil
  | selfClosing name attributes offset hrest ih => exact .selfClosing name attributes offset ih
  | pair name attributes offset stop hchildren hrest ihchildren ihrest =>
      rw [List.map_cons, List.map_append, List.map_cons]
      exact .pair name attributes offset ihchildren ihrest

theorem tags?_eq_some_iff {document : List Char} {tags : List Tag} :
    tags? document = some tags ↔ ∃ ts, tokens document = .ok ts ∧ ts.map (·.tag) = tags := by
  rw [tags?, tokens]
  cases scan document with
  | error e => simp [Except.toOption]
  | ok scanned => simp [Except.toOption, Function.comp_def]

/-- Documents with the same tags have the same root, up to places. -/
theorem Element.exists_ofText_of_tags?_eq {document document' : String}
    (htags : tags? document.toList = tags? document'.toList) {root : Element}
    (h : Element.ofText document = .ok root) :
    ∃ root', Element.ofText document' = .ok root' ∧ root'.unplaced = root.unplaced := by
  obtain ⟨ts, hts, hroot⟩ := ofText_eq_ok_iff.1 h
  obtain ⟨hflat, hheight⟩ := ofTokens_eq_ok_iff_height.1 hroot
  obtain ⟨ts', hts', hsame⟩ := tags?_eq_some_iff.1 (htags ▸ tags?_eq_some_iff.2 ⟨ts, hts, rfl⟩)
  obtain ⟨root', hplaces, hrun⟩ := Builder.run_empty_of_spells hflat.spells hsame hheight
  exact ⟨root', ofText_eq_ok_iff.2 ⟨ts', hts', ofTokens_eq_ok_iff.2 hrun⟩, hplaces⟩

end ZoneGuard.Markup

namespace ZoneGuard.RelationTable

open Markup

/-- Documents with the same tags have the same relations. -/
theorem ofText_of_tags?_eq {output output' : String} {t : RelationTable}
    (htags : tags? output.toList = tags? output'.toList) (h : ofText output = .ok t) :
    ofText output' = .ok t := by
  obtain ⟨root, hroot, rfl⟩ := ofText_eq_ok_iff.1 h
  obtain ⟨root', hroot', hplaces⟩ := Element.exists_ofText_of_tags?_eq htags hroot
  refine ofText_eq_ok_iff.2 ⟨root', hroot', ?_⟩
  rw [← ofElement_unplaced, hplaces, ofElement_unplaced]

/-- Text, comments and character data sections between constructs are invisible: with them
the output has a table exactly if it has it without them. -/
theorem ofText_insert_iff {before inserted behind : String} (hcut : EndsBetween before.toList)
    (h : IsPassedOver inserted.toList) (t : RelationTable) :
    ofText (before ++ inserted ++ behind) = .ok t ↔ ofText (before ++ behind) = .ok t := by
  have htags : tags? (before ++ inserted ++ behind).toList = tags? (before ++ behind).toList := by
    simp only [String.toList_append]
    exact tags?_insert hcut h
  exact ⟨ofText_of_tags?_eq htags, ofText_of_tags?_eq htags.symm⟩

/-- A section behind the tag of a field.  It looks like the end of the field and a tuple, and
a bracket stands before its end. -/
def tagLikeSection : String := "<![CDATA[</field>--><tuple><atom label='b'/></tuple>]]]>"

theorem ofText_insert_iff_tagLikeSection :
    EndsBetween "<r><field label='F>'>".toList ∧ IsPassedOver tagLikeSection.toList ∧
      ofText "<r><field label='F>'><tuple><atom label='a$0'/></tuple></field></r>" =
        .ok ⟨[("F>", [["a"]])]⟩ ∧
      ofText ("<r><field label='F>'>" ++ tagLikeSection
        ++ "<tuple><atom label='a$0'/></tuple></field></r>") = .ok ⟨[("F>", [["a"]])]⟩ := by
  have hcut : EndsBetween "<r><field label='F>'>".toList := by
    intro s h
    cases h
    rfl
  have hinner : ¬ "]]>".toList <:+: "</field>--><tuple><atom label='b'/></tuple>]".toList := by
    decide +kernel
  have hsection : IsPassedOver tagLikeSection.toList := .dataSection hinner
  have hread : ofText ("<r><field label='F>'>"
      ++ "<tuple><atom label='a$0'/></tuple></field></r>") = .ok ⟨[("F>", [["a"]])]⟩ := by
    decide +kernel
  exact ⟨hcut, hsection, hread, (ofText_insert_iff hcut hsection _).2 hread⟩

end ZoneGuard.RelationTable
