import Mathlib.Data.List.Forall2
import Tenancy.Proofs.DomainLabels
import Tenancy.Proofs.Splitting

/-!
# Domains in both forms

A domain that is shown without joiners stands for the domain that was read, and its ASCII form is no
longer than before. One that is shown with a joiner is no domain.

* `exists_labels`: label by label, from `encodeLabel?_again`.
* `map?_join`: names are mapped to themselves, since each is composed and has regular characters.
* `Name.of?_again`: the shown form of a domain, given as a domain.
-/

namespace Tenancy.Domain

open Text

theorem mapM_eq_some_iff {α β : Type} {f : α → Option β} {l : List α} {l' : List β} :
    l.mapM f = some l' ↔ List.Forall₂ (fun a b => f a = some b) l l' := by
  induction l generalizing l' with
  | nil =>
    rw [List.mapM_nil, List.forall₂_nil_left_iff, Option.pure_def, Option.some.injEq, eq_comm]
  | cons a l ih =>
    rw [List.mapM_cons, List.forall₂_cons_left_iff]
    simp only [Option.bind_eq_bind, Option.bind_eq_some_iff, Option.pure_def, Option.some.injEq, ih]
    exact ⟨fun ⟨b, first, bs, rest, same⟩ => ⟨b, bs, first, rest, same.symm⟩,
      fun ⟨b, bs, first, rest, same⟩ => ⟨b, first, bs, rest, same.symm⟩⟩

/-! ## Joined names -/

section Join

variable {names labels labels' : List (List Char)} {first : List Char} {c : Char}

theorem join_cons_cons (first second : List Char) (rest : List (List Char)) :
    join (first :: second :: rest) = first ++ '.' :: join (second :: rest) := by
  rw [join, List.intercalate_cons_cons, List.append_assoc, List.singleton_append]
  rfl

theorem join_singleton (first : List Char) : join [first] = first :=
  List.intercalate_singleton

/-- What holds of the point and of all characters of names holds of all characters of a domain. -/
theorem forall_mem_join {P : Char → Prop} (point : P '.') (all : ∀ name ∈ names, ∀ c ∈ name, P c) :
    ∀ c ∈ join names, P c := by
  induction names with
  | nil => exact fun _ within => nomatch within
  | cons first rest ih =>
    rw [List.forall_mem_cons] at all
    cases rest with
    | nil => exact (join_singleton first).symm ▸ all.1
    | cons second rest =>
      rw [join_cons_cons, List.forall_mem_append, List.forall_mem_cons]
      exact ⟨all.1, point, ih all.2⟩

theorem forall_of_forall_join {P : Char → Prop} (all : ∀ c ∈ join names, P c) :
    ∀ name ∈ names, ∀ c ∈ name, P c := by
  induction names with
  | nil => exact fun _ within => nomatch within
  | cons first rest ih =>
    rw [List.forall_mem_cons]
    cases rest with
    | nil => exact ⟨join_singleton first ▸ all, fun _ within => nomatch within⟩
    | cons second rest =>
      rw [join_cons_cons, List.forall_mem_append, List.forall_mem_cons] at all
      exact ⟨all.1, ih all.2.2⟩

theorem head?_join (nonempty : first ≠ []) (rest : List (List Char)) :
    (join (first :: rest)).head? = first.head? := by
  cases rest with
  | nil => rw [join_singleton]
  | cons second rest => rw [join_cons_cons, List.head?_append_of_ne_nil _ nonempty]

theorem length_join_le (shorter : List.Forall₂ (fun l' l => l'.length ≤ l.length) labels' labels) :
    (join labels').length ≤ (join labels).length := by
  induction shorter with
  | nil => exact Nat.le_refl _
  | @cons l' l rest' rest first shorter ih =>
    cases shorter with
    | nil => rwa [join_singleton, join_singleton]
    | cons second shorter =>
      rw [join_cons_cons, join_cons_cons, List.length_append, List.length_append, List.length_cons,
        List.length_cons]
      omega

theorem normal_join (composed : ∀ name ∈ names, normal name = name) :
    normal (join names) = join names := by
  induction names with
  | nil => rfl
  | cons first rest ih =>
    rw [List.forall_mem_cons] at composed
    cases rest with
    | nil => rw [join_singleton, composed.1]
    | cons second rest => rw [join_cons_cons, normal_append_point, composed.1, ih composed.2]

/-- The last character of a domain is a letter when that of the last label is. -/
theorem ends_with_letter {l : List Char} (rest : List Char) :
    (l ++ '.' :: rest).getLast?.any Char.isAlpha = rest.getLast?.any Char.isAlpha := by
  rw [List.getLast?_append_of_ne_nil _ (List.cons_ne_nil _ _)]
  cases rest with
  | nil => rfl
  | cons c rest => rw [List.getLast?_cons_of_ne_nil (List.cons_ne_nil c rest)]

end Join

section Names

variable {s : List Char} {host : Name} {labels labels' names : List (List Char)}

theorem Name.of?_eq_some : Name.of? s = some host ↔
    (s.all isDomainChar = true ∧ standsAlone s = true) ∧ ∃ mapped, map? s = some mapped ∧
      mapped.all (fun c => c.isAlphanum || c == '-' || c == '.' || 128 ≤ c.toNat) = true ∧
      ((splitAt '.' mapped).all isPart = true ∧ 2 ≤ (splitAt '.' mapped).length) ∧
      ∃ labels, (splitAt '.' mapped).mapM encodeLabel? = some labels ∧
        ((join labels).length ≤ maxDomain ∧ (join labels).getLast?.any Char.isAlpha = true) ∧
        specialDomains.any (·.isSuffixOf labels) = false ∧
        ∃ names, labels.mapM decodeLabel? = some names ∧ ⟨join names, join labels⟩ = host := by
  simp only [Name.of?, Option.ite_none_left_eq_some, Option.bind_eq_bind, Option.bind_eq_some_iff,
    Bool.or_eq_true, Bool.not_eq_true', Bool.not_eq_true, Bool.not_eq_false, not_or,
    decide_eq_true_eq, Nat.not_lt, Option.pure_def, Option.some.injEq]

/-- How the ASCII form of a label may differ when its shown form is given. -/
def Reformed (l' l : List Char) : Prop :=
  l' = l ∨ encodedSign.isPrefixOf l' = true ∧ l'.length ≤ l.length ∧
    l'.getLast? = (l.map Char.toLower).getLast?

/-- Labels in ASCII and the names that they stand for. -/
def StandFor (labels names : List (List Char)) : Prop :=
  List.Forall₂ (fun l p => l.length ≤ maxLabel ∧ (∀ c ∈ l, c.toNat < 128) ∧
    decodeLabel? l = some p) labels names

theorem exists_labels (known : StandFor labels names) :
    ∃ labels', names.mapM encodeLabel? = some labels' ∧ labels'.mapM decodeLabel? = some names ∧
      List.Forall₂ Reformed labels' labels := by
  simp only [mapM_eq_some_iff]
  induction known with
  | nil => exact ⟨[], .nil, .nil, .nil⟩
  | cons first rest ih =>
    obtain ⟨short, ascii, decoded⟩ := first
    obtain ⟨l', encoded, again, reformed⟩ := encodeLabel?_again short ascii decoded
    obtain ⟨labels', encodes, agains, allReformed⟩ := ih
    exact ⟨l' :: labels', .cons encoded encodes, .cons again agains, .cons reformed allReformed⟩

theorem Reformed.length_le {l' l : List Char} (reformed : Reformed l' l) :
    l'.length ≤ l.length := by
  obtain rfl | ⟨-, shorter, -⟩ := reformed
  · exact Nat.le_refl _
  · exact shorter

theorem isAlpha_toLower (c : Char) : c.toLower.isAlpha = c.isAlpha :=
  Punycode.forall_toLower (P := fun c d => d.isAlpha = c.isAlpha) (by decide) (fun _ _ => rfl) c

theorem Reformed.any_isAlpha {l' l : List Char} (reformed : Reformed l' l) :
    l'.getLast?.any Char.isAlpha = l.getLast?.any Char.isAlpha := by
  obtain rfl | ⟨-, -, last⟩ := reformed
  · rfl
  · rw [last, List.getLast?_map]
    cases l.getLast? with
    | none => rfl
    | some c => exact isAlpha_toLower c

theorem any_isAlpha_join (reformed : List.Forall₂ Reformed labels' labels) :
    (join labels').getLast?.any Char.isAlpha = (join labels).getLast?.any Char.isAlpha := by
  induction reformed with
  | nil => rfl
  | cons first rest ih =>
    cases rest with
    | nil => rw [join_singleton, join_singleton, first.any_isAlpha]
    | cons second rest =>
      rw [join_cons_cons, join_cons_cons, ends_with_letter, ends_with_letter, ih]

theorem exists_getLast? (reformed : List.Forall₂ Reformed labels' labels) {l' : List Char}
    (last : labels'.getLast? = some l') : ∃ l, labels.getLast? = some l ∧ Reformed l' l := by
  induction reformed with
  | nil => cases last
  | cons first rest ih =>
    cases rest with
    | nil =>
      cases last
      exact ⟨_, rfl, first⟩
    | cons second rest =>
      rw [List.getLast?_cons_cons] at last ⊢
      exact ih last

theorem not_special (reformed : List.Forall₂ Reformed labels' labels)
    (usual : specialDomains.any (·.isSuffixOf labels) = false) :
    specialDomains.any (·.isSuffixOf labels') = false := by
  have single : ∀ special ∈ specialDomains, ∃ name, special = [name] ∧
      encodedSign.isPrefixOf name = false := by
    intro special listed
    obtain ⟨name, listed, rfl⟩ := List.mem_map.mp listed
    refine ⟨name.toList, rfl, ?_⟩
    revert name
    decide
  rw [List.any_eq_false] at usual ⊢
  intro special listed ends
  obtain ⟨name, rfl, unsigned⟩ := single special listed
  obtain ⟨front, rfl⟩ := List.isSuffixOf_iff_suffix.mp ends
  obtain ⟨l, last, same | ⟨signed, -⟩⟩ := exists_getLast? reformed List.getLast?_concat
  · obtain ⟨before, rfl⟩ := List.getLast?_eq_some_iff.mp last
    exact usual [name] listed (List.isSuffixOf_iff_suffix.mpr ⟨before, by rw [same]⟩)
  · rw [unsigned] at signed
    cases signed

theorem map?_join (composed : ∀ name ∈ names, normal name = name)
    (kept : ∀ name ∈ names, ∀ c ∈ name, mapChar? c = some [c]) :
    map? (join names) = some (join names) := by
  have all : ∀ c ∈ join names, mapChar? c = some [c] :=
    forall_mem_join (P := fun c => mapChar? c = some [c]) (by decide +kernel) kept
  have parts : (join names).mapM mapChar? = some ((join names).map fun c => [c]) :=
    mapM_eq_some_iff.mpr (List.forall₂_map_right_iff.mpr (List.forall₂_same.mpr all))
  have whole : ((join names).map fun c => [c]).flatten = join names := by
    rw [← List.flatMap_def, List.flatMap_singleton']
  rw [map?, parts, Option.map_some, whole, normal_join composed]

theorem isDomainChar_joiner {c : Char} (joiner : IsJoiner c) : isDomainChar c = false := by
  obtain same | same := joiner
  · rw [← Char.ofNat_toNat c, same]
    decide +kernel
  · rw [← Char.ofNat_toNat c, same]
    decide +kernel

/-- A joiner cannot be given. -/
theorem Name.of?_joiner {c : Char} (within : c ∈ s) (joiner : IsJoiner c) : Name.of? s = none := by
  refine Option.eq_none_iff_forall_ne_some.mpr fun host accepted => ?_
  have all := (Name.of?_eq_some.mp accepted).1.1
  rw [List.all_eq_true] at all
  exact absurd (all c within) (by rw [isDomainChar_joiner joiner]; exact Bool.false_ne_true)

theorem isPart_of_label {p : List Char} (label : isLabel p = true) : isPart p = true := by
  obtain ⟨nonempty, -, free, first, last, -⟩ := isLabel_eq_true.mp label
  have middle : ((p.drop 2).take 2 == ['-', '-']) = false := beq_eq_false_iff_ne.mpr free
  rw [isPart, middle, Bool.false_and, bne_iff_ne.mpr first, bne_iff_ne.mpr last,
    List.isEmpty_eq_false_iff.mpr nonempty]
  rfl

theorem bounds_of_encoded {parts : List (List Char)}
    (encoded : List.Forall₂ (fun part l => encodeLabel? part = some l) parts labels) :
    ∀ l ∈ labels, l.length ≤ maxLabel ∧ ∀ c ∈ l, c.toNat < 128 := by
  induction encoded with
  | nil => exact fun _ within => nomatch within
  | cons first _ ih => exact List.forall_mem_cons.mpr ⟨bounds_of_encodeLabel? first, ih⟩

theorem standFor_of_decoded (bounds : ∀ l ∈ labels, l.length ≤ maxLabel ∧ ∀ c ∈ l, c.toNat < 128)
    (decoded : List.Forall₂ (fun l p => decodeLabel? l = some p) labels names) :
    StandFor labels names ∧ ∀ name ∈ names, isLabel name = true := by
  induction decoded with
  | nil => exact ⟨.nil, fun _ within => nomatch within⟩
  | cons first _ ih =>
    rw [List.forall_mem_cons] at bounds
    obtain ⟨known, label⟩ := ih bounds.2
    exact ⟨.cons ⟨bounds.1.1, bounds.1.2, first⟩ known,
      List.forall_mem_cons.mpr ⟨(decodeLabel?_eq_some.mp first).1, label⟩⟩

/-- What is known of the parts of an accepted domain. -/
theorem exists_names (accepted : Name.of? s = some host) :
    ∃ labels names, StandFor labels names ∧ (∀ name ∈ names, isLabel name = true) ∧
      2 ≤ names.length ∧ host = ⟨join names, join labels⟩ ∧ (join labels).length ≤ maxDomain ∧
      (join labels).getLast?.any Char.isAlpha = true ∧
      specialDomains.any (·.isSuffixOf labels) = false := by
  obtain ⟨-, mapped, -, -, ⟨-, several⟩, labels, encoded, ⟨short, letter⟩, usual, names, decoded,
    rfl⟩ := Name.of?_eq_some.mp accepted
  rw [mapM_eq_some_iff] at encoded decoded
  obtain ⟨known, label⟩ := standFor_of_decoded (bounds_of_encoded encoded) decoded
  refine ⟨labels, names, known, label, ?_, rfl, short, letter, usual⟩
  rw [← decoded.length_eq, ← encoded.length_eq]
  exact several

/-- What is shown are characters of domains and joiners. -/
theorem Name.shown_of_of? (accepted : Name.of? s = some host) :
    host.shown ≠ [] ∧ ∀ c ∈ host.shown, isDomainChar c = true ∨ IsJoiner c := by
  obtain ⟨labels, names, -, label, several, rfl, -⟩ := exists_names accepted
  constructor
  · rcases names with _ | ⟨first, _ | ⟨second, rest⟩⟩
    · cases several
    · exact absurd several (Nat.not_le.mpr Nat.one_lt_two)
    · rw [join_cons_cons]
      exact List.append_ne_nil_of_right_ne_nil _ (List.cons_ne_nil _ _)
  · exact forall_mem_join (P := fun c => isDomainChar c = true ∨ IsJoiner c) (.inl (by decide))
      fun name listed c within => (regular_or_joiner (label name listed) c within).imp_left
        IsRegular.listed

/-- The shown form of a domain, given as a domain. -/
theorem Name.of?_again (accepted : Name.of? s = some host) (seen : ∀ c ∈ host.shown, ¬IsJoiner c) :
    ∃ ascii, Name.of? host.shown = some ⟨host.shown, ascii⟩ ∧
      ascii.length ≤ host.ascii.length ∧ ∀ c ∈ ascii, c.toNat < 128 := by
  obtain ⟨labels, names, known, label, several, rfl, short, letter, usual⟩ := exists_names accepted
  obtain ⟨labels', encoded, decoded, reformed⟩ := exists_labels known
  have regular : ∀ name ∈ names, ∀ c ∈ name, IsRegular c := fun name listed c within =>
    (regular_or_joiner (label name listed) c within).resolve_right
      (forall_of_forall_join seen name listed c within)
  have shorter : (join labels').length ≤ (join labels).length :=
    length_join_le (reformed.imp fun _ _ => Reformed.length_le)
  have plain : ∀ c ∈ join labels', c.toNat < 128 :=
    forall_mem_join (by decide) fun l listed =>
      (bounds_of_encoded (mapM_eq_some_iff.mp encoded) l listed).2
  have characters : ∀ c ∈ join names, isDomainChar c = true :=
    forall_mem_join (by decide) fun name listed c within => (regular name listed c within).listed
  have mapped : map? (join names) = some (join names) :=
    map?_join (fun name listed => (isLabel_eq_true.mp (label name listed)).2.1)
      fun name listed c within => (regular name listed c within).kept
  obtain ⟨first, rest, rfl⟩ : ∃ first rest, names = first :: rest := by
    refine List.exists_cons_of_ne_nil fun none => ?_
    rw [none] at several
    cases several
  have free : ∀ name ∈ first :: rest, '.' ∉ name := fun name listed within =>
    (regular name listed '.' within).inside rfl
  have parts : splitAt '.' (join (first :: rest)) = first :: rest :=
    splitAt_intercalate (List.forall_mem_cons.mp free).1 (List.forall_mem_cons.mp free).2
  have alone : standsAlone (join (first :: rest)) = true := by
    obtain ⟨nonempty, -, -, -, -, start, -⟩ := isLabel_eq_true.mp (label first List.mem_cons_self)
    rw [standsAlone, head?_join nonempty, start]
    rfl
  refine ⟨join labels', Name.of?_eq_some.mpr ⟨⟨List.all_eq_true.mpr characters, alone⟩, _, mapped,
    ?_, ⟨?_, ?_⟩, labels', ?_, ⟨Nat.le_trans shorter short, ?_⟩, not_special reformed usual, _,
    decoded, rfl⟩, shorter, plain⟩
  · refine List.all_eq_true.mpr fun c within => ?_
    have listed := characters c within
    simp only [isDomainChar, isWide, Bool.or_eq_true, Bool.and_eq_true] at listed ⊢
    exact listed.imp_right fun wide => wide.1.1
  · rw [parts]
    exact List.all_eq_true.mpr fun name listed => isPart_of_label (label name listed)
  · rw [parts]
    exact several
  · rw [parts, encoded]
  · rw [any_isAlpha_join reformed, letter]

end Names

end Tenancy.Domain
