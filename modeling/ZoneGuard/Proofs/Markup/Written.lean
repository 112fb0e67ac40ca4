import Mathlib
import ZoneGuard.Identifier
import ZoneGuard.Proofs.Markup.TagText
import ZoneGuard.Proofs.Markup.ValueText

/-!
# Tags that are written down

Tags written in the plain way, with words for names and values between double
quotes, are found again by the scanner, whatever text without an opening bracket
stands between them.
-/

namespace ZoneGuard.Markup

/-- The characters are letters, digits and underscores, and at least one. -/
def IsWord (cs : List Char) : Prop := cs ≠ [] ∧ ∀ c ∈ cs, isWordChar c = true

instance : DecidablePred IsWord := fun cs =>
  decidable_of_iff (cs ≠ [] ∧ cs.all isWordChar = true) (by simp [IsWord])

/-- The value can stand between double quotes as it is. -/
def IsPlainValue (s : String) : Prop := '"' ∉ s.toList ∧ '&' ∉ s.toList

instance : DecidablePred IsPlainValue := fun s =>
  inferInstanceAs (Decidable ('"' ∉ s.toList ∧ '&' ∉ s.toList))

/-- An attribute, written with a blank before it. -/
def writeAttribute (a : String × String) : List Char :=
  ' ' :: (a.1.toList ++ '=' :: '"' :: (a.2.toList ++ ['"']))

namespace Tag

/-- What stands between the brackets. -/
def content : Tag → List Char
  | .opening name attributes selfClosing =>
    name.toList ++ attributes.flatMap writeAttribute ++ if selfClosing then ['/'] else []
  | .closing name => '/' :: name.toList

def write (t : Tag) : List Char := '<' :: (t.content ++ ['>'])

def IsPlain : Tag → Prop
  | .opening name attributes _ =>
    IsWord name.toList ∧ (attributes.map (·.1)).Nodup ∧
      ∀ a ∈ attributes, IsWord a.1.toList ∧ IsPlainValue a.2
  | .closing name => IsWord name.toList

end Tag

/-! ## Attributes -/

theorem ne_of_isWordChar {c d : Char} (hc : isWordChar c = true) (hd : isWordChar d = false) :
    c ≠ d := by
  rintro rfl
  rw [hd] at hc
  cases hc

theorem isLayout_of_isWordChar {c : Char} (h : isWordChar c = true) :
    Text.isLayout c = false := by
  simp [Text.isLayout, ne_of_isWordChar h (d := ' ') (by decide),
    ne_of_isWordChar h (d := '\t') (by decide), ne_of_isWordChar h (d := '\r') (by decide),
    ne_of_isWordChar h (d := '\n') (by decide)]

/-- A value without an ampersand stands for itself. -/
theorem valueText_of_isPlainValue {s : String} (h : IsPlainValue s) :
    valueText s.toList = s := by
  have hreadable : ∀ p ∈ [Piece.plain s.toList h.2], p.IsReadable := by simp [Piece.IsReadable]
  have hvalue := valueText_of_forall_isReadable hreadable
  simpa [Piece.write, Piece.meaning] using hvalue

theorem isKey_of_isWord {cs : List Char} (h : IsWord cs) : IsKey cs := by
  obtain ⟨hne, hword⟩ := h
  obtain ⟨c, cs, rfl⟩ := List.exists_cons_of_ne_nil hne
  refine .cons (isLayout_of_isWordChar (hword c List.mem_cons_self)) fun d hd => ?_
  have hd := hword d (List.mem_cons_of_mem _ hd)
  exact ⟨ne_of_isWordChar hd (by decide), isLayout_of_isWordChar hd⟩

theorem spellsAttributes_flatMap {attributes : List (String × String)}
    (hplain : ∀ a ∈ attributes, IsWord a.1.toList ∧ IsPlainValue a.2) :
    SpellsAttributes (attributes.flatMap writeAttribute)
      (attributes.map fun a => (a.1.toList, a.2.toList)) := by
  induction attributes with
  | nil => exact .nil (List.forall_mem_nil _)
  | cons a attributes ih =>
      obtain ⟨hkey, hvalue⟩ := hplain a List.mem_cons_self
      have hblank : IsGap [' '] := by simp [IsGap, Text.isLayout]
      have htext : IsAttributeText
          (a.1.toList ++ [] ++ '=' :: ([] ++ '"' :: (a.2.toList ++ ['"']))) a.1.toList a.2.toList :=
        .intro (isKey_of_isWord hkey) (List.forall_mem_nil _) (List.forall_mem_nil _) (Or.inl rfl)
          hvalue.1
      have hspells := SpellsAttributes.cons hblank htext
        (ih fun b hb => hplain b (List.mem_cons_of_mem _ hb))
      simpa [writeAttribute] using hspells

/-! ## Tags -/

/-- Written attributes do not end in a slash. -/
theorem getLast?_append_flatMap_ne {name : List Char} (hname : IsWord name)
    (attributes : List (String × String)) :
    (name ++ attributes.flatMap writeAttribute).getLast? ≠ some '/' := by
  intro hlast
  rcases List.eq_nil_or_concat' attributes with rfl | ⟨init, a, rfl⟩
  · rw [List.flatMap_nil, List.append_nil] at hlast
    have hword := hname.2 _ (List.mem_of_getLast? hlast)
    exact absurd hword (by decide)
  · have hends : name ++ (init ++ [a]).flatMap writeAttribute =
        (name ++ init.flatMap writeAttribute ++ ' ' :: (a.1.toList ++ '=' :: '"' :: a.2.toList))
          ++ ['"'] := by
      simp [writeAttribute]
    rw [hends, List.getLast?_concat] at hlast
    exact absurd (Option.some.inj hlast) (by decide)

/-- An opening tag is read from what is written for it. -/
theorem openingTag_content {name : String} {attributes : List (String × String)}
    {selfClosing : Bool} (h : (Tag.opening name attributes selfClosing).IsPlain) :
    openingTag (Tag.opening name attributes selfClosing).content =
      .ok (.opening name attributes selfClosing) := by
  obtain ⟨hname, hnodup, hplain⟩ := h
  have hbehind : ∀ c ∈ (attributes.flatMap writeAttribute).head?, Text.isLayout c = true := by
    cases attributes with
    | nil => simp
    | cons a attributes => simp [writeAttribute, Text.isLayout]
  have hkeys : ((attributes.map fun a => (a.1.toList, a.2.toList)).map (·.1)).Nodup := by
    rw [List.map_map]
    have hmap := hnodup.map fun _ _ => String.toList_injective
    rwa [List.map_map] at hmap
  have hreported : (attributes.map fun a => (a.1.toList, a.2.toList)).map reportedAttribute =
      attributes := by
    rw [List.map_map]
    refine (List.map_congr_left fun a ha => ?_).trans (List.map_id _)
    simp [reportedAttribute, valueText_of_isPlainValue (hplain a ha).2]
  refine openingTag_eq_ok_iff.2 ⟨name.toList, _, selfClosing,
    .intro (fun c hc => isLayout_of_isWordChar (hname.2 c hc)) hbehind
      (spellsAttributes_flatMap hplain) hkeys fun _ => getLast?_append_flatMap_ne hname _, ?_⟩
  rw [hreported, String.ofList_toList]

theorem closingTag_toList {name : String} (hname : IsWord name.toList) :
    closingTag name.toList = .closing name := by
  have hreverse : name.toList.reverse.dropWhile Text.isLayout = name.toList.reverse := by
    rw [List.dropWhile_eq_self_iff]
    intro hlength
    have hmem : name.toList.reverse[0] ∈ name.toList := by
      rw [← List.mem_reverse]
      exact List.getElem_mem hlength
    rw [isLayout_of_isWordChar (hname.2 _ hmem)]
    decide
  have hempty : name.toList.isEmpty = false := by simpa using hname.1
  simp only [closingTag, hreverse, List.reverse_reverse, hempty, Bool.false_eq_true, if_false,
    String.ofList_toList]

/-! ## The texts of tags -/

/-- Characters of words do not end a tag and open no quote. -/
theorem closesQuotes_of_isWord {cs : List Char} (h : IsWord cs) : ClosesQuotes cs :=
  closesQuotes_of_forall fun c hc =>
    have hword := h.2 c hc
    ⟨ne_of_isWordChar hword (by decide), ne_of_isWordChar hword (by decide),
      ne_of_isWordChar hword (by decide)⟩

theorem closesQuotes_writeAttribute {a : String × String} (hkey : IsWord a.1.toList)
    (hvalue : IsPlainValue a.2) : ClosesQuotes (writeAttribute a) := by
  have hquoted : ClosesQuotes ('"' :: (a.2.toList ++ '"' :: [])) :=
    .quoted (Or.inl rfl) hvalue.1 .nil
  exact .plain (by decide) ((closesQuotes_of_isWord hkey).append (.plain (by decide) hquoted))

/-- Written attributes leave no quote open. -/
theorem closesQuotes_flatMap_writeAttribute {attributes : List (String × String)}
    (h : ∀ a ∈ attributes, IsWord a.1.toList ∧ IsPlainValue a.2) :
    ClosesQuotes (attributes.flatMap writeAttribute) := by
  induction attributes with
  | nil => exact .nil
  | cons a attributes ih =>
      obtain ⟨hkey, hvalue⟩ := h a List.mem_cons_self
      exact (closesQuotes_writeAttribute hkey hvalue).append
        (ih fun b hb => h b (List.mem_cons_of_mem _ hb))

/-- A tag that is written down has the text of the tag. -/
theorem isTagText_write {tag : Tag} (h : tag.IsPlain) : IsTagText tag.write tag := by
  cases tag with
  | opening name attributes selfClosing =>
      obtain ⟨hname, -, hplain⟩ := id h
      refine .opening (fun c hc => ?_) ?_ (openingTag_content h)
      · obtain ⟨d, cs, hchars⟩ := List.exists_cons_of_ne_nil hname.1
        have hword : isWordChar d = true := hname.2 d (hchars ▸ List.mem_cons_self)
        rw [Tag.content, hchars] at hc
        cases hc
        exact ⟨ne_of_isWordChar hword (by decide), ne_of_isWordChar hword (by decide),
          ne_of_isWordChar hword (by decide)⟩
      · refine ((closesQuotes_of_isWord hname).append
          (closesQuotes_flatMap_writeAttribute hplain)).append ?_
        cases selfClosing with
        | true => exact .plain (by decide) .nil
        | false => exact .nil
  | closing name =>
      have hbracket : '>' ∉ name.toList := fun hmem =>
        ne_of_isWordChar (h.2 _ hmem) (by decide) rfl
      have htext := IsTagText.closing hbracket
      rwa [closingTag_toList h] at htext

/-! ## The scanner -/

namespace Scanner

/-- Text without an opening bracket is passed over. -/
theorem run_text {cs : List Char} (h : '<' ∉ cs) (position : Nat) (found : List ScannedTag) :
    run ⟨.text, position, found⟩ cs = .ok ⟨.text, position + Text.byteLength cs, found⟩ := by
  induction cs generalizing position with
  | nil => rfl
  | cons c cs ih =>
      have hc : c ≠ '<' := fun heq => h (heq ▸ List.mem_cons_self)
      have hnext : next ⟨.text, position, found⟩ c =
          .ok ⟨.text, position + c.utf8Size, found⟩ := by
        simp [next, hc]
      rw [run_cons hnext, ih (List.not_mem_of_not_mem_cons h), Text.byteLength_cons,
        Nat.add_assoc]

/-- A written tag is found where it ends. -/
theorem run_write {tag : Tag} (h : tag.IsPlain) (position : Nat) (found : List ScannedTag) :
    ∃ stop, run ⟨.text, position, found⟩ tag.write = .ok ⟨.text, stop, ⟨tag, stop⟩ :: found⟩ :=
  ⟨_, run_of_isTagText (isTagText_write h) position found⟩

end Scanner

/-! ## Documents -/

/-- Tags, each with text before it, and the text behind the last. -/
def writePieces (pieces : List (List Char × Tag)) (behind : List Char) : List Char :=
  pieces.flatMap (fun piece => piece.1 ++ piece.2.write) ++ behind

/-- The text between the tags has no opening bracket, and the tags can be
written down. -/
structure ArePieces (pieces : List (List Char × Tag)) (behind : List Char) : Prop where
  text : ∀ piece ∈ pieces, '<' ∉ piece.1
  tags : ∀ piece ∈ pieces, piece.2.IsPlain
  behind : '<' ∉ behind

theorem Scanner.run_writePieces {pieces : List (List Char × Tag)} {behind : List Char}
    (h : ArePieces pieces behind) (position : Nat) (found : List ScannedTag) :
    ∃ (stop : Nat) (scanned : List ScannedTag),
      run ⟨.text, position, found⟩ (writePieces pieces behind) =
        .ok ⟨.text, stop, scanned.reverse ++ found⟩ ∧
      scanned.map (·.tag) = pieces.map (·.2) := by
  induction pieces generalizing position found with
  | nil => exact ⟨_, [], run_text h.behind position found, rfl⟩
  | cons piece pieces ih =>
      obtain ⟨stop, hwrite⟩ := run_write (h.tags piece List.mem_cons_self)
        (position + Text.byteLength piece.1) found
      obtain ⟨stop', scanned, hrest, hmap⟩ := ih
        ⟨fun p hp => h.text p (List.mem_cons_of_mem _ hp),
          fun p hp => h.tags p (List.mem_cons_of_mem _ hp), h.behind⟩
        stop (⟨piece.2, stop⟩ :: found)
      refine ⟨stop', ⟨piece.2, stop⟩ :: scanned, ?_, by rw [List.map_cons, List.map_cons, hmap]⟩
      rw [writePieces, List.flatMap_cons, List.append_assoc, List.append_assoc,
        run_append (run_text (h.text piece List.mem_cons_self) position found),
        run_append hwrite, ← writePieces, hrest, List.reverse_cons, List.append_assoc,
        List.singleton_append]

theorem withoutMark_cons (c : Char) (cs : List Char) :
    withoutMark (c :: cs) = if c = '\uFEFF' then cs else c :: cs := by
  by_cases h : c = '\uFEFF'
  · subst h
    rfl
  · rw [if_neg h, withoutMark]
    intro cs' heq
    exact h (List.cons.inj heq).1

/-- A byte order mark is part of the text before the first tag. -/
theorem exists_withoutMark {pieces : List (List Char × Tag)} {behind : List Char}
    (h : ArePieces pieces behind) :
    ∃ pieces' behind', withoutMark (writePieces pieces behind) = writePieces pieces' behind' ∧
      ArePieces pieces' behind' ∧ pieces'.map (·.2) = pieces.map (·.2) := by
  cases pieces with
  | nil =>
      cases behind with
      | nil => exact ⟨[], [], rfl, h, rfl⟩
      | cons c behind =>
          by_cases hc : c = '\uFEFF'
          · exact ⟨[], behind, by simp [writePieces, withoutMark_cons, hc],
              ⟨h.text, h.tags, List.not_mem_of_not_mem_cons h.behind⟩, rfl⟩
          · exact ⟨[], c :: behind, by simp [writePieces, withoutMark_cons, hc], h, rfl⟩
  | cons piece pieces =>
      obtain ⟨text, tag⟩ := piece
      cases text with
      | nil => exact ⟨([], tag) :: pieces, behind, rfl, h, rfl⟩
      | cons c text =>
          by_cases hc : c = '\uFEFF'
          · refine ⟨(text, tag) :: pieces, behind, by simp [writePieces, withoutMark_cons, hc],
              ⟨?_, ?_, h.behind⟩, rfl⟩
            · intro p hp
              rcases List.mem_cons.1 hp with rfl | hp
              · exact List.not_mem_of_not_mem_cons (h.text (c :: text, tag) List.mem_cons_self)
              · exact h.text p (List.mem_cons_of_mem _ hp)
            · intro p hp
              rcases List.mem_cons.1 hp with rfl | hp
              · exact h.tags (c :: text, tag) List.mem_cons_self
              · exact h.tags p (List.mem_cons_of_mem _ hp)
          · exact ⟨(c :: text, tag) :: pieces, behind,
              by simp [writePieces, withoutMark_cons, hc], h, rfl⟩

/-- The tags of a written document are found. -/
theorem tokens_writePieces {pieces : List (List Char × Tag)} {behind : List Char}
    (h : ArePieces pieces behind) :
    ∃ ts, tokens (writePieces pieces behind) = .ok ts ∧ ts.map (·.tag) = pieces.map (·.2) := by
  obtain ⟨pieces', behind', hmark, h', htags⟩ := exists_withoutMark h
  obtain ⟨stop, scanned, hrun, hmap⟩ := Scanner.run_writePieces h' 0 []
  have hscan : scan (writePieces pieces behind) = .ok scanned := by
    simp [scan, hmark, Scanner.initial, hrun, Scanner.finish]
  refine ⟨_, by rw [tokens, hscan], ?_⟩
  rw [List.map_map, ← htags, ← hmap]
  rfl

end ZoneGuard.Markup
