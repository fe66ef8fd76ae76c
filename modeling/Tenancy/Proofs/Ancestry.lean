import Mathlib.Data.List.Nodup
import Mathlib.Data.List.Pairwise
import Mathlib.Data.List.Perm.Subperm
import Mathlib.Logic.Relation
import Tenancy.Organization.Hierarchy
import Tenancy.Proofs.Traversal

/-!
# Ancestors and descendants

The two directions of a hierarchy as relations, on any rows at all.

* `Child` and its transitive closure go down: `mem_descendants_iff`.
* `Halts` goes up to where a climb ends, and `Resolves` to the organization directly under the root:
  `firstLevelAncestor_eq_ok_iff`. A climb that ends meets every id once, so that the bound of the
  climb is high enough (`Halts.firstLevelAncestor_eq`).
* In a `Proper` hierarchy, where no id occurs twice, both directions say the same:
  `mem_firstLevel_iff`. What climbs to the first level is not below itself: `not_below_itself`.
-/

namespace Tenancy.Hierarchy

variable {h g : Hierarchy} {x y a b p q : Int}

/-- No id occurs twice, and the root is not among them. -/
structure Proper (h : Hierarchy) : Prop where
  nodup : h.ids.Nodup
  rootless : rootOrganizationId ∉ h.ids

/-- A row puts `y` under `x`. -/
def Child (h : Hierarchy) (x y : Int) : Prop :=
  ∃ row ∈ h, row.id = some y ∧ row.parent = x

/-! ## Rows -/

theorem mem_ids : x ∈ h.ids ↔ ∃ row ∈ h, row.id = some x := by
  simp [ids]

theorem mem_of_row? {row : HierarchyRow} (found : h.row? x = some row) :
    row ∈ h ∧ row.id = some x := by
  refine ⟨List.mem_reverse.mp (List.mem_of_find?_eq_some found), ?_⟩
  simpa using List.find?_some found

theorem contains_iff : h.contains x = true ↔ x ∈ h.ids := by
  simp [contains, row?, mem_ids]

theorem mem_childrenOf : y ∈ h.childrenOf x ↔ h.Child x y := by
  simp only [childrenOf, Links.mem_under, links, List.mem_filterMap, Option.map_eq_some_iff, Child,
    Prod.mk.injEq]
  constructor
  · rintro ⟨row, present, _, own, rfl, rfl⟩
    exact ⟨row, present, own, rfl⟩
  · rintro ⟨row, present, own, rfl⟩
    exact ⟨row, present, y, own, rfl, rfl⟩

theorem child_of_parent? (above : h.parent? x = some p) : h.Child p x := by
  obtain ⟨row, found, rfl⟩ := Option.map_eq_some_iff.mp above
  obtain ⟨present, own⟩ := mem_of_row? found
  exact ⟨row, present, own, rfl⟩

theorem Child.mem_ids (under : h.Child p x) : x ∈ h.ids := by
  obtain ⟨row, present, own, -⟩ := under
  exact Hierarchy.mem_ids.mpr ⟨row, present, own⟩

theorem mem_ids_of_parent? (above : h.parent? x = some p) : x ∈ h.ids :=
  (child_of_parent? above).mem_ids

theorem exists_parent? (known : x ∈ h.ids) : ∃ p, h.parent? x = some p := by
  obtain ⟨row, found⟩ := Option.isSome_iff_exists.mp (contains_iff.mpr known)
  exact ⟨row.parent, by rw [parent?, found, Option.map_some]⟩

/-- With distinct ids there is one row for each id. -/
theorem eq_of_same_id (nodup : h.ids.Nodup) {row other : HierarchyRow} (present : row ∈ h)
    (otherPresent : other ∈ h) (own : row.id = some x) (otherOwn : other.id = some x) :
    row = other := by
  by_contra different
  have apart := List.pairwise_filterMap.mp nodup
  have symmetric : Std.Symm fun r q : HierarchyRow =>
      ∀ y, r.id = some y → ∀ z, q.id = some z → y ≠ z :=
    ⟨fun _ _ ne _ first _ second => (ne _ second _ first).symm⟩
  exact apart.forall present otherPresent different x own x otherOwn rfl

theorem row?_eq_some (nodup : h.ids.Nodup) {row : HierarchyRow} (present : row ∈ h)
    (own : row.id = some x) : h.row? x = some row := by
  have known : h.contains x = true := contains_iff.mpr (mem_ids.mpr ⟨row, present, own⟩)
  obtain ⟨other, found⟩ := Option.isSome_iff_exists.mp known
  obtain ⟨otherPresent, otherOwn⟩ := mem_of_row? found
  rw [found, eq_of_same_id nodup otherPresent present otherOwn own]

theorem Child.parent? (nodup : h.ids.Nodup) (under : h.Child p x) : h.parent? x = some p := by
  obtain ⟨row, present, own, rfl⟩ := under
  rw [Hierarchy.parent?, row?_eq_some nodup present own]
  rfl

theorem Child.unique (nodup : h.ids.Nodup) (first : h.Child p x) (second : h.Child q x) : p = q :=
  Option.some.inj ((first.parent? nodup).symm.trans (second.parent? nodup))

/-! ## Down -/

theorem mem_descendants_iff :
    y ∈ h.descendants x ↔ y ≠ x ∧ Relation.TransGen h.Child x y := by
  have pending : ∀ z, h.Child x z → (0, z) ∈ (h.childrenOf x).map (0, ·) :=
    fun z under => List.mem_map_of_mem (mem_childrenOf.mpr under)
  simp only [descendants, List.mem_map]
  constructor
  · rintro ⟨⟨depth, z⟩, visit, rfl⟩
    refine ⟨by simpa using Links.key_not_mem_of_mem_preorder visit, ?_⟩
    refine Links.of_mem_preorder (P := fun z => Relation.TransGen h.Child x z) ?_ ?_ visit
    · exact fun z below w under => below.tail (mem_childrenOf.mp under)
    · intro waiting listed
      obtain ⟨z, under, rfl⟩ := List.mem_map.mp listed
      exact .single (mem_childrenOf.mp under)
  · rintro ⟨different, below⟩
    suffices covered : Links.Covered h.links (fun child => child)
        ((h.childrenOf x).map (0, ·)) [x] y by
      rcases covered with start | ⟨z, visit, same⟩
      · exact absurd (List.mem_singleton.mp start) different
      · exact ⟨z, visit, same⟩
    clear different
    -- whatever lies below `x` is `x` itself or is visited: a cycle may lead back to `x`
    induction below with
    | single under => exact Links.covered_of_pending (pending _ under)
    | tail _ under ih =>
      rcases ih with start | ⟨z, visit, rfl⟩
      · rw [List.mem_singleton.mp start] at under
        exact Links.covered_of_pending (pending _ under)
      · exact Links.covered_of_under visit (mem_childrenOf.mpr under)

theorem nodup_descendants (h : Hierarchy) (x : Int) : (h.descendants x).Nodup :=
  Links.nodup_preorder h.links (fun child => child) _ [x]

theorem not_mem_descendants (h : Hierarchy) (x : Int) : x ∉ h.descendants x :=
  fun listed => (mem_descendants_iff.mp listed).1 rfl

theorem mem_cons_descendants_iff :
    y ∈ x :: h.descendants x ↔ Relation.ReflTransGen h.Child x y := by
  rw [List.mem_cons, mem_descendants_iff, Relation.reflTransGen_iff_eq_or_transGen]
  by_cases same : y = x <;> simp [same]

/-- What lies below something is a member. -/
theorem mem_ids_of_transGen (below : Relation.TransGen h.Child x y) : y ∈ h.ids := by
  cases below with
  | single under => exact under.mem_ids
  | tail _ under => exact under.mem_ids

theorem descendants_mono (grown : ∀ row ∈ h, row ∈ g) (below : y ∈ h.descendants x) :
    y ∈ g.descendants x := by
  rw [mem_descendants_iff] at below ⊢
  refine ⟨below.1, Relation.TransGen.mono (fun p c under => ?_) _ _ below.2⟩
  obtain ⟨row, present, fits⟩ := under
  exact ⟨row, grown row present, fits⟩

/-! ## Up -/

/-- Climbing from `x` meets the given number of organizations, and the last of them gives the
answer: it is directly under the root, or its parent does not exist. -/
inductive Halts (h : Hierarchy) : Nat → Int → Except Unresolved Int → Prop
  | top {x : Int} : h.parent? x = some rootOrganizationId → Halts h 1 x (.ok x)
  | stray {x p : Int} :
      h.parent? x = some p → p ≠ rootOrganizationId → p ∉ h.ids →
      Halts h 1 x (.error (.dangling x p))
  | up {n : Nat} {x p : Int} {answer : Except Unresolved Int} :
      h.parent? x = some p → p ≠ rootOrganizationId → Halts h n p answer → Halts h (n + 1) x answer

/-- Climbing from `x` meets the given number of organizations and ends at `a`, directly under the
root. -/
inductive Climbs (h : Hierarchy) : Nat → Int → Int → Prop
  | top {x : Int} : h.parent? x = some rootOrganizationId → Climbs h 1 x x
  | up {n : Nat} {x p a : Int} :
      h.parent? x = some p → p ≠ rootOrganizationId → Climbs h n p a → Climbs h (n + 1) x a

/-- Climbing from `x` ends at `a`, directly under the root. -/
def Resolves (h : Hierarchy) (x a : Int) : Prop :=
  ∃ n, h.Climbs n x a

namespace Halts

variable {n m : Nat} {answer other : Except Unresolved Int}

theorem mem_ids (halts : h.Halts n x answer) : x ∈ h.ids := by
  cases halts with
  | top above => exact mem_ids_of_parent? above
  | stray above => exact mem_ids_of_parent? above
  | up above => exact mem_ids_of_parent? above

theorem unique (halts : h.Halts n x answer) (others : h.Halts m x other) :
    n = m ∧ answer = other := by
  induction halts generalizing m with
  | top above =>
    cases others with
    | top => exact ⟨rfl, rfl⟩
    | stray otherAbove inner => exact absurd (Option.some.inj (otherAbove.symm.trans above)) inner
    | up otherAbove inner => exact absurd (Option.some.inj (otherAbove.symm.trans above)) inner
  | stray above inner absent =>
    cases others with
    | top otherAbove => exact absurd (Option.some.inj (above.symm.trans otherAbove)) inner
    | stray otherAbove =>
      obtain rfl := Option.some.inj (above.symm.trans otherAbove)
      exact ⟨rfl, rfl⟩
    | up otherAbove _ rest =>
      obtain rfl := Option.some.inj (above.symm.trans otherAbove)
      exact absurd rest.mem_ids absent
  | up above inner halts ih =>
    cases others with
    | top otherAbove => exact absurd (Option.some.inj (above.symm.trans otherAbove)) inner
    | stray otherAbove _ absent =>
      obtain rfl := Option.some.inj (above.symm.trans otherAbove)
      exact absurd halts.mem_ids absent
    | up otherAbove _ rest =>
      obtain rfl := Option.some.inj (above.symm.trans otherAbove)
      obtain ⟨rfl, rfl⟩ := ih rest
      exact ⟨rfl, rfl⟩

/-- The ids on the way up are distinct, as each of them is met at its own height. -/
theorem path (halts : h.Halts n x answer) :
    ∃ path : List Int, path.length = n ∧ path.Nodup ∧
      ∀ y ∈ path, ∃ m, m ≤ n ∧ h.Halts m y answer := by
  induction halts with
  | @top x above =>
    refine ⟨[x], rfl, List.nodup_singleton x, fun y listed => ?_⟩
    rw [List.mem_singleton.mp listed]
    exact ⟨1, Nat.le_refl 1, .top above⟩
  | @stray x p above inner absent =>
    refine ⟨[x], rfl, List.nodup_singleton x, fun y listed => ?_⟩
    rw [List.mem_singleton.mp listed]
    exact ⟨1, Nat.le_refl 1, .stray above inner absent⟩
  | @up n x p answer above inner halts ih =>
    obtain ⟨path, length, nodup, met⟩ := ih
    refine ⟨x :: path, by simp [length], List.nodup_cons.mpr ⟨fun again => ?_, nodup⟩,
      fun y listed => ?_⟩
    · -- on the path `x` would be met at a second height
      obtain ⟨m, low, others⟩ := met x again
      have same := ((Halts.up above inner halts).unique others).1
      omega
    · rcases List.mem_cons.mp listed with rfl | listed
      · exact ⟨n + 1, Nat.le_refl _, .up above inner halts⟩
      · obtain ⟨m, low, others⟩ := met y listed
        exact ⟨m, Nat.le_succ_of_le low, others⟩

theorem le_size (halts : h.Halts n x answer) : n ≤ h.size := by
  obtain ⟨path, rfl, nodup, met⟩ := halts.path
  have listed : ∀ (l : List Int) (y : Int), y ∈ l.foldr List.insert [] ↔ y ∈ l := by
    intro l y
    induction l with
    | nil => rfl
    | cons z rest ih => simp [ih]
  refine (List.subperm_of_subset nodup fun y onPath => ?_).length_le
  obtain ⟨m, -, others⟩ := met y onPath
  exact (listed h.ids y).mpr others.mem_ids

/-- A climb that ends is found if the bound is high enough. -/
theorem climb_eq {steps : Nat} (start : Int) (halts : h.Halts n x answer) (enough : n ≤ steps) :
    h.climb start steps x = answer := by
  induction halts generalizing steps with
  | top above =>
    obtain ⟨steps, rfl⟩ := Nat.exists_eq_add_of_le' enough
    simp [climb, above]
  | @stray x p above inner absent =>
    obtain ⟨steps, rfl⟩ := Nat.exists_eq_add_of_le' enough
    have unknown : ¬h.contains p = true := fun known => absent (contains_iff.mp known)
    simp [climb, above, inner, unknown]
  | @up n x p answer above inner rest ih =>
    obtain ⟨more, rfl⟩ := Nat.exists_eq_add_of_le' enough
    have known : h.contains p = true := contains_iff.mpr rest.mem_ids
    rw [← Nat.add_assoc]
    simp only [climb, above, inner, known, ↓reduceIte]
    exact ih (Nat.le_add_left n more)

/-- The bound of the climb is high enough for every climb that ends. -/
theorem firstLevelAncestor_eq (halts : h.Halts n x answer) : h.firstLevelAncestor x = answer := by
  rw [firstLevelAncestor, if_pos (contains_iff.mpr halts.mem_ids)]
  exact halts.climb_eq x halts.le_size

end Halts

/-- A climb from a member ends, or uses up its steps. -/
theorem halts_of_climb {start : Int} {steps : Nat} (known : x ∈ h.ids) :
    (∃ n, h.Halts n x (h.climb start steps x)) ∨ h.climb start steps x = .error (.cycle start) := by
  induction steps generalizing x with
  | zero => exact .inr rfl
  | succ steps ih =>
    obtain ⟨p, above⟩ := exists_parent? known
    rw [climb, above]
    by_cases last : p = rootOrganizationId
    · simp only [last, ↓reduceIte]
      exact .inl ⟨1, .top (last ▸ above)⟩
    by_cases inside : p ∈ h.ids
    · simp only [last, contains_iff.mpr inside, ↓reduceIte]
      rcases ih inside with ⟨n, halts⟩ | around
      · exact .inl ⟨n + 1, .up above last halts⟩
      · exact .inr around
    · simp only [last, mt contains_iff.mp inside, ↓reduceIte]
      exact .inl ⟨1, .stray above last inside⟩

/-- The climb from a member ends, or it runs in a circle. -/
theorem halts_or_cycle (known : x ∈ h.ids) :
    (∃ n, h.Halts n x (h.firstLevelAncestor x)) ∨
      h.firstLevelAncestor x = .error (.cycle x) ∧ ∀ n answer, ¬h.Halts n x answer := by
  by_cases ends : ∃ n answer, h.Halts n x answer
  · obtain ⟨n, answer, halts⟩ := ends
    exact .inl ⟨n, halts.firstLevelAncestor_eq.symm ▸ halts⟩
  · push Not at ends
    rw [firstLevelAncestor, if_pos (contains_iff.mpr known)]
    rcases halts_of_climb known with ⟨n, halts⟩ | around
    · exact absurd halts (ends n _)
    · exact .inr ⟨around, ends⟩

/-- More steps than there are ids make no difference. -/
theorem climb_eq_firstLevelAncestor {steps : Nat} (known : x ∈ h.ids) (enough : h.size ≤ steps) :
    h.climb x steps x = h.firstLevelAncestor x := by
  rcases halts_or_cycle known with ⟨n, halts⟩ | ⟨around, endless⟩
  · exact halts.climb_eq x (Nat.le_trans halts.le_size enough)
  · rw [around]
    exact (halts_of_climb known).resolve_left fun ⟨n, halts⟩ => endless n _ halts

theorem climbs_iff_halts {n : Nat} : h.Climbs n x a ↔ h.Halts n x (.ok a) := by
  constructor
  · intro climbs
    induction climbs with
    | top above => exact .top above
    | up above inner _ ih => exact .up above inner ih
  · intro halts
    generalize same : Except.ok a = answer at halts
    induction halts with
    | top above =>
      cases same
      exact .top above
    | stray => cases same
    | up above inner _ ih => exact .up above inner (ih same)

theorem Climbs.unique {n m : Nat} (climbs : h.Climbs n x a) (others : h.Climbs m x b) :
    n = m ∧ a = b := by
  obtain ⟨length, same⟩ := (climbs_iff_halts.mp climbs).unique (climbs_iff_halts.mp others)
  exact ⟨length, Except.ok.inj same⟩

theorem Climbs.mem_ids {n : Nat} (climbs : h.Climbs n x a) : x ∈ h.ids :=
  (climbs_iff_halts.mp climbs).mem_ids

theorem firstLevelAncestor_eq_ok_iff : h.firstLevelAncestor x = .ok a ↔ h.Resolves x a := by
  constructor
  · intro done
    have known : x ∈ h.ids := by
      by_contra absent
      rw [firstLevelAncestor, if_neg (mt contains_iff.mp absent)] at done
      cases done
    rcases halts_or_cycle known with ⟨n, halts⟩ | ⟨around, -⟩
    · rw [done] at halts
      exact ⟨n, climbs_iff_halts.mpr halts⟩
    · rw [done] at around
      cases around
  · rintro ⟨n, climbs⟩
    exact (climbs_iff_halts.mp climbs).firstLevelAncestor_eq

namespace Resolves

theorem top (above : h.parent? x = some rootOrganizationId) : h.Resolves x x :=
  ⟨1, .top above⟩

theorem up (above : h.parent? x = some p) (inner : p ≠ rootOrganizationId)
    (resolves : h.Resolves p a) : h.Resolves x a := by
  obtain ⟨n, climbs⟩ := resolves
  exact ⟨n + 1, .up above inner climbs⟩

theorem unique (resolves : h.Resolves x a) (others : h.Resolves x b) : a = b := by
  obtain ⟨n, climbs⟩ := resolves
  obtain ⟨m, otherClimbs⟩ := others
  exact (climbs.unique otherClimbs).2

theorem mem_ids (resolves : h.Resolves x a) : x ∈ h.ids := by
  obtain ⟨n, climbs⟩ := resolves
  exact climbs.mem_ids

/-- The climb ends directly under the root. -/
theorem parent?_last (resolves : h.Resolves x a) : h.parent? a = some rootOrganizationId := by
  obtain ⟨n, climbs⟩ := resolves
  induction climbs with
  | top above => exact above
  | up _ _ _ ih => exact ih

theorem last (resolves : h.Resolves x a) : h.Resolves a a :=
  .top resolves.parent?_last

/-- An organization is at or below the one that it climbs to. -/
theorem reflTransGen (resolves : h.Resolves x a) : Relation.ReflTransGen h.Child a x := by
  obtain ⟨n, climbs⟩ := resolves
  induction climbs with
  | top => exact .refl
  | up above _ _ ih => exact ih.tail (child_of_parent? above)

/-- What climbs to the first level lies below the root. -/
theorem below_root (resolves : h.Resolves x a) :
    Relation.TransGen h.Child rootOrganizationId x :=
  .head' (child_of_parent? resolves.parent?_last) resolves.reflTransGen

/-- A climb stays what it is in a hierarchy that agrees about the parents on its way. -/
theorem transfer (resolves : h.Resolves x a)
    (agree : ∀ y p, h.Resolves y a → h.parent? y = some p → g.parent? y = some p) :
    g.Resolves x a := by
  obtain ⟨n, climbs⟩ := resolves
  induction climbs with
  | top above => exact .top (agree _ _ (.top above) above)
  | up above inner climbs ih =>
    exact .up (agree _ _ (.up above inner ⟨_, climbs⟩) above) inner (ih agree)

/-- Rows that are added change no climb that ends. -/
theorem mono (resolves : h.Resolves x a) (grown : ∀ row ∈ h, row ∈ g) (nodup : g.ids.Nodup) :
    g.Resolves x a := by
  refine resolves.transfer fun y p _ above => Child.parent? nodup ?_
  obtain ⟨row, present, under⟩ := child_of_parent? above
  exact ⟨row, grown row present, under⟩

end Resolves

/-! ## Both directions -/

namespace Proper

theorem ne_root (proper : h.Proper) (known : x ∈ h.ids) : x ≠ rootOrganizationId :=
  fun root => proper.rootless (root ▸ known)

theorem resolves_of_child (proper : h.Proper) (resolves : h.Resolves p a) (under : h.Child p x) :
    h.Resolves x a :=
  .up (under.parent? proper.nodup) (proper.ne_root resolves.mem_ids) resolves

theorem resolves_of_mem_childrenOf (proper : h.Proper) (resolves : h.Resolves p a)
    (under : x ∈ h.childrenOf p) : h.Resolves x a :=
  proper.resolves_of_child resolves (mem_childrenOf.mp under)

theorem resolves_of_transGen (proper : h.Proper) (resolves : h.Resolves p a)
    (below : Relation.TransGen h.Child p x) : h.Resolves x a := by
  induction below with
  | single under => exact proper.resolves_of_child resolves under
  | tail _ under ih => exact proper.resolves_of_child ih under

/-- What lies at or below a first-level organization is what climbs to it. -/
theorem mem_firstLevel_iff (proper : h.Proper) (first : h.Resolves a a) :
    y ∈ a :: h.descendants a ↔ h.Resolves y a := by
  rw [mem_cons_descendants_iff]
  constructor
  · intro below
    rcases Relation.reflTransGen_iff_eq_or_transGen.mp below with rfl | below
    · exact first
    · exact proper.resolves_of_transGen first below
  · exact Resolves.reflTransGen

/-- What lies below a member climbs higher than it. -/
theorem climbs_of_transGen (proper : h.Proper) {n : Nat} (climbs : h.Climbs n x a)
    (below : Relation.TransGen h.Child x y) : ∃ m, n < m ∧ h.Climbs m y a := by
  induction below with
  | single under =>
    exact ⟨n + 1, Nat.lt_succ_self n,
      .up (under.parent? proper.nodup) (proper.ne_root climbs.mem_ids) climbs⟩
  | tail _ under ih =>
    obtain ⟨m, higher, others⟩ := ih
    exact ⟨m + 1, Nat.lt_succ_of_lt higher,
      .up (under.parent? proper.nodup) (proper.ne_root others.mem_ids) others⟩

theorem not_below_root (proper : h.Proper) : ¬Relation.TransGen h.Child x rootOrganizationId :=
  fun below => proper.rootless (mem_ids_of_transGen below)

/-- Only the root is above what is on the first level. -/
theorem root_of_above (proper : h.Proper) (first : h.Resolves a a)
    (above : Relation.TransGen h.Child x a) : x = rootOrganizationId := by
  obtain ⟨p, upper, link⟩ := Relation.TransGen.tail'_iff.mp above
  obtain rfl : p = rootOrganizationId :=
    Option.some.inj ((link.parent? proper.nodup).symm.trans first.parent?_last)
  rcases Relation.reflTransGen_iff_eq_or_transGen.mp upper with same | under
  · exact same.symm
  · exact absurd under proper.not_below_root

theorem not_below_itself (proper : h.Proper) (member : h.Resolves x a) :
    ¬Relation.TransGen h.Child x x := by
  obtain ⟨n, climbs⟩ := member
  intro cycle
  obtain ⟨m, higher, others⟩ := proper.climbs_of_transGen climbs cycle
  exact absurd (climbs.unique others).1 (Nat.ne_of_lt higher)

end Proper

end Tenancy.Hierarchy
