import Mathlib
import ZoneGuard.Proofs.Text.Lines
import ZoneGuard.Report
import ZoneGuard.Spec.Compile

/-!
# Lines of a summary

Ids, atoms and labels are spliced into the lines of a summary as they are, between words
that have no line feed.  So a line of the summary is a single line exactly if what is
spliced in has none.  The beginning of a line tells whether it is the line of an item,
the header of a rule, or something else.
-/

namespace ZoneGuard

open Text (IsLine isLine_append isLine_intercalate_iff isLine_toString)

/-! ## Texts without line feeds -/

theorem Rule.isLine_key (r : Rule) : IsLine r.key ∧ r.key.toList.head? = some 'F' := by
  have hall : ∀ s ∈ all.map key, '\n' ∉ s.toList ∧ s.toList.head? = some 'F' := by
    apply Text.forall_of_spells fun cs => '\n' ∉ cs ∧ cs.head? = some 'F'
    · repeat' constructor
    · decide +kernel
  exact hall _ (List.mem_map_of_mem r.mem_all)

theorem Rule.isLine_remediation (r : Rule) :
    IsLine r.remediation ∧ r.remediation.toList.head? ≠ some '-' := by
  have hall : ∀ s ∈ all.map remediation, '\n' ∉ s.toList ∧ s.toList.head? ≠ some '-' := by
    apply Text.forall_of_spells fun cs => '\n' ∉ cs ∧ cs.head? ≠ some '-'
    · repeat' constructor
    · decide +kernel
  exact hall _ (List.mem_map_of_mem r.mem_all)

theorem EntityKind.isLine_signature (kind : EntityKind) : IsLine kind.signature := by
  cases kind <;> decide

theorem EngineStatus.isLine_name (status : EngineStatus) : IsLine status.name := by
  cases status <;> decide

theorem Subject.isLine_text_iff {s : Subject} : IsLine s.text ↔ IsLine s.id := by
  have hsystem : IsLine "system '" := by decide
  have hconnection : IsLine "connection '" := by decide
  have hquote : IsLine "'" := by decide
  cases s <;> simp [text, id, isLine_append, hsystem, hconnection, hquote]

/-! ## What is spliced in -/

/-- The texts that are spliced into the line of a group. -/
def Group.texts (g : Group) : List String := g.primary.subject.id :: g.data

/-- The texts that are spliced into the line of a warning. -/
def Warning.texts : Warning → List String
  | .unknownRule field => [field]
  | .localRule _ => []
  | .unknownAtom _ _ atom => [atom]

namespace Report

def itemLine (g : Group) : String :=
  "  - " ++ g.primary.subject.text
    ++ (if g.data.isEmpty then "" else " [data: " ++ ", ".intercalate g.data ++ "]")

def warningLine (w : Warning) : String := "  - " ++ w.text

/-- The line before the groups of a rule. -/
def headerLine (r : Rule) (n : Nat) : String := r.key ++ " (" ++ toString n ++ ")"

/-- An item is one line exactly if none of its texts has a line feed. -/
theorem isLine_itemLine_iff {g : Group} : IsLine (itemLine g) ↔ ∀ t ∈ g.texts, IsLine t := by
  have hmark : IsLine "  - " := by decide
  have hopen : IsLine " [data: " := by decide
  have hclose : IsLine "]" := by decide
  have hdata : IsLine (if g.data.isEmpty then ""
      else " [data: " ++ ", ".intercalate g.data ++ "]") ↔ ∀ t ∈ g.data, IsLine t := by
    split
    · next hempty =>
      rw [List.isEmpty_iff.1 hempty]
      exact iff_of_true (by decide) nofun
    · rw [isLine_append, isLine_append, isLine_intercalate_iff (by decide)]
      simp only [hopen, hclose, true_and, and_true]
  rw [itemLine, isLine_append, isLine_append, Subject.isLine_text_iff, hdata, Group.texts,
    List.forall_mem_cons]
  simp only [hmark, true_and]

/-- A warning is one line exactly if none of its texts has a line feed. -/
theorem isLine_warningLine_iff {w : Warning} :
    IsLine (warningLine w) ↔ ∀ t ∈ w.texts, IsLine t := by
  have hfixed : ∀ s ∈ ["  - ", "engine reported undeclared rule field '", "'", "engine reported '",
      "', which is evaluated in-process", ": ", " '", "' is not in the input graph"], IsLine s := by
    apply Text.forall_of_spells fun cs => '\n' ∉ cs
    · repeat' constructor
    · decide +kernel
  simp only [List.forall_mem_cons] at hfixed
  obtain ⟨hmark, hundeclared, hquote, hreported, hlocal, hcolon, hopen, hunknown, -⟩ := hfixed
  cases w with
  | unknownRule field =>
      have hline : warningLine (.unknownRule field) =
          "  - " ++ ("engine reported undeclared rule field '" ++ field ++ "'") := rfl
      simp only [hline, Warning.texts, isLine_append, hmark, hundeclared, hquote, true_and,
        and_true, List.mem_singleton, forall_eq]
  | localRule rule =>
      have hline : warningLine (.localRule rule) =
          "  - " ++ ("engine reported '" ++ rule.key ++ "', which is evaluated in-process") := rfl
      simp only [hline, Warning.texts, isLine_append, hmark, hreported, hlocal, rule.isLine_key,
        and_true, List.not_mem_nil, false_imp_iff, implies_true]
  | unknownAtom rule entity atom =>
      have hline : warningLine (.unknownAtom rule entity atom) = "  - " ++
          (rule.key ++ ": " ++ entity.signature ++ " '" ++ atom ++ "' is not in the input graph") :=
        rfl
      simp only [hline, Warning.texts, isLine_append, hmark, hcolon, hopen, hunknown,
        rule.isLine_key, entity.isLine_signature, true_and, and_true, List.mem_singleton, forall_eq]

theorem isLine_headerLine (r : Rule) (n : Nat) : IsLine (headerLine r n) :=
  isLine_append.2 ⟨isLine_append.2 ⟨isLine_append.2 ⟨r.isLine_key.1, by decide⟩,
    isLine_toString n⟩, by decide⟩

/-! ## What a line looks like -/

/-- The line begins like those of groups and warnings. -/
def IsItemLine (line : String) : Prop := "  - ".toList <+: line.toList

/-- The line looks like the header of a rule. -/
def IsHeaderLine (line : String) : Prop :=
  ∃ r ∈ Rule.all, (r.key ++ " (").toList <+: line.toList ∧ ")".toList <:+ line.toList

instance : DecidablePred IsItemLine :=
  fun line => inferInstanceAs (Decidable ("  - ".toList <+: line.toList))

instance : DecidablePred IsHeaderLine := fun line =>
  inferInstanceAs (Decidable (∃ r ∈ Rule.all,
    (r.key ++ " (").toList <+: line.toList ∧ ")".toList <:+ line.toList))

theorem isItemLine_itemLine (g : Group) : IsItemLine (itemLine g) := by
  rw [IsItemLine, itemLine, String.append_assoc, String.toList_append]
  exact List.prefix_append _ _

theorem isItemLine_warningLine (w : Warning) : IsItemLine (warningLine w) := by
  rw [IsItemLine, warningLine, String.toList_append]
  exact List.prefix_append _ _

theorem isHeaderLine_headerLine (r : Rule) (n : Nat) : IsHeaderLine (headerLine r n) := by
  refine ⟨r, r.mem_all, ?_, ?_⟩
  · rw [headerLine, String.append_assoc, String.toList_append (s := r.key ++ " (")]
    exact List.prefix_append _ _
  · rw [headerLine, String.toList_append]
    exact List.suffix_append _ _

theorem IsHeaderLine.head? {line : String} (h : IsHeaderLine line) :
    line.toList.head? = some 'F' := by
  obtain ⟨r, -, hbegin, -⟩ := h
  have hhead : (r.key ++ " (").toList.head? = some 'F' := by
    rw [String.toList_append, List.head?_append, r.isLine_key.2, Option.some_or]
  obtain ⟨rest, hrest⟩ := hbegin
  rw [← hrest, List.head?_append, hhead, Option.some_or]

theorem IsItemLine.head? {line : String} (h : IsItemLine line) :
    line.toList.head? = some ' ' := by
  obtain ⟨rest, hrest⟩ := h
  rw [← hrest]
  rfl

theorem IsHeaderLine.not_isItemLine {line : String} (h : IsHeaderLine line) :
    ¬ IsItemLine line := by
  intro hitem
  have heq := h.head?.symm.trans hitem.head?
  exact absurd heq (by decide)

theorem IsItemLine.not_isHeaderLine {line : String} (h : IsItemLine line) :
    ¬ IsHeaderLine line :=
  fun hheader => hheader.not_isItemLine h

/-- The line is neither that of an item nor a header. -/
def IsPlain (line : String) : Prop := ¬ IsItemLine line ∧ ¬ IsHeaderLine line

theorem isPlain_of_head? {line : String} (hspace : line.toList.head? ≠ some ' ')
    (hletter : line.toList.head? ≠ some 'F') : IsPlain line :=
  ⟨fun h => hspace h.head?, fun h => hletter h.head?⟩

theorem isPlain_empty : IsPlain "" :=
  isPlain_of_head? (by decide) (by decide)

theorem isPlain_heading : IsPlain "warnings:" :=
  isPlain_of_head? (by decide) (by decide)

/-- A long enough beginning shows what the line looks like. -/
theorem isPlain_append {s : String} (hlong : "  - ".toList.length ≤ s.toList.length)
    (hitem : ¬ IsItemLine s) (hhead : s.toList.head? ≠ some 'F') (t : String) :
    IsPlain (s ++ t) := by
  have hchars : (s ++ t).toList = s.toList ++ t.toList := String.toList_append
  constructor
  · intro h
    rw [IsItemLine, hchars] at h
    exact hitem (List.prefix_of_prefix_length_le h (List.prefix_append _ _) hlong)
  · intro h
    have hF := h.head?
    have hne : s.toList ≠ [] := List.ne_nil_of_length_pos (Nat.lt_of_lt_of_le (by decide) hlong)
    rw [hchars, List.head?_append_of_ne_nil _ hne] at hF
    exact hhead hF

theorem isPlain_advice (r : Rule) : IsPlain ("  " ++ r.remediation) := by
  have hchars : ("  " ++ r.remediation).toList = ' ' :: ' ' :: r.remediation.toList :=
    String.toList_append
  constructor
  · rintro ⟨rest, hrest⟩
    rw [hchars] at hrest
    have hhead := congrArg List.head? (List.cons.inj (List.cons.inj hrest).2).2
    exact r.isLine_remediation.2 hhead.symm
  · intro h
    have hhead := h.head?
    rw [hchars, List.head?_cons] at hhead
    exact absurd hhead (by decide)

theorem isPlain_reason (s : String) : IsPlain ("  engine output unavailable: " ++ s) :=
  isPlain_append (by decide) (by decide) (by decide) s

theorem isPlain_headline (report : Report) : IsPlain report.headline := by
  obtain ⟨rest, hrest⟩ : ∃ rest, report.headline = "archcheck: " ++ rest := by
    unfold headline
    simp only [String.append_assoc]
    exact ⟨_, rfl⟩
  rw [hrest]
  exact isPlain_append (by decide) (by decide) (by decide) rest

/-! ## The digest -/

theorem mem_of_mem_shortDigest {digest : String} {c : Char}
    (h : c ∈ (shortDigest digest).toList) : c ∈ digest.toList := by
  have hgo : ∀ (left : Nat) (taken cs : List Char), taken ⊆ digest.toList → cs ⊆ digest.toList →
      (shortDigest.go digest left taken cs).toList ⊆ digest.toList := by
    intro left taken cs htaken hcs
    induction cs generalizing left taken with
    | nil =>
        rw [shortDigest.go]
        split
        · simpa using htaken
        · exact List.Subset.refl _
    | cons c cs ih =>
        obtain ⟨hc, hrest⟩ := List.cons_subset.1 hcs
        rw [shortDigest.go]
        split
        · simpa using htaken
        · split
          · exact ih _ _ (List.cons_subset.2 ⟨hc, htaken⟩) hrest
          · exact List.Subset.refl _
  exact hgo 12 [] _ (List.nil_subset _) (List.Subset.refl _) h

theorem lineFeed_notMem_hexadecimal (n : Nat) : '\n' ∉ Text.hexadecimal n := by
  have hdigit : ∀ d < 16, '\n' ≠ Nat.digitChar d := by decide
  unfold Text.hexadecimal
  induction n using Nat.strongRecOn with
  | ind n ih =>
      by_cases hsmall : n < 16
      · rw [Nat.toDigits_of_lt_base hsmall, List.mem_singleton]
        exact hdigit n hsmall
      · rw [Nat.toDigits_of_base_le (by decide) (Nat.le_of_not_lt hsmall), List.mem_append,
          List.mem_singleton, not_or]
        exact ⟨ih (n / 16) (by omega), hdigit (n % 16) (Nat.mod_lt n (by decide))⟩

theorem isLine_digest (spec : Specification) : IsLine spec.digest := by
  have hword (w : UInt32) : '\n' ∉ Sha256.wordText w := by
    simp [Sha256.wordText, lineFeed_notMem_hexadecimal]
  rw [Specification.digest, Sha256.hexDigest, IsLine, String.toList_ofList, List.mem_flatMap]
  rintro ⟨w, -, hmem⟩
  exact hword w hmem

theorem isLine_headline {report : Report} (h : IsLine report.digest) : IsLine report.headline := by
  have hshort : IsLine (shortDigest report.digest) := fun hmem => h (mem_of_mem_shortDigest hmem)
  have hdigest : IsLine (if (shortDigest report.digest).isEmpty then "-"
      else shortDigest report.digest) := by
    split
    · decide
    · exact hshort
  have hfixed : ∀ s ∈ ["archcheck: ", " violation(s) in ", " group(s) [solver ", "] spec "],
      IsLine s := by
    apply Text.forall_of_spells fun cs => '\n' ∉ cs
    · repeat' constructor
    · decide +kernel
  simp only [List.forall_mem_cons] at hfixed
  obtain ⟨hname, hviolations, hgroups, hspec, -⟩ := hfixed
  unfold headline
  simp only [isLine_append, isLine_toString, EngineStatus.isLine_name, hname, hviolations, hgroups,
    hspec, hdigest, and_self]

end Report

end ZoneGuard
