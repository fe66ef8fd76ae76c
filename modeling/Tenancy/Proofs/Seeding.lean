import Tenancy.Proofs.Insertion
import Tenancy.State.Entry

/-!
# Filling in the catalogue

The catalogue is put into the tables of menus and routes row by row (`Seeds`), and no other table
changes on the way (`Seeds.frame`).
-/

namespace Tenancy

namespace Database

variable {former middle db : Database}

/-- The second database comes of the first one by new menus and new routes, each with the next id of
its table. -/
inductive Seeds (former : Database) : Database → Prop
  | refl : Seeds former former
  | menu {db : Database} {m : Menu} :
      Seeds former db → m.id = nextId (db.menus.map (·.id)) →
      Seeds former { db with menus := db.menus ++ [m] }
  | route {db : Database} {r : Route} :
      Seeds former db → r.id = nextId (db.routes.map (·.id)) →
      Seeds former { db with routes := db.routes ++ [r] }

theorem Seeds.foldlM {α : Type} {act : Database → α → Except Fault Database} {l : List α}
    (each : ∀ {a before after}, Seeds former before → act before a = .ok after →
      Seeds former after)
    (start : Seeds former middle) (done : l.foldlM act middle = .ok db) : Seeds former db := by
  induction l generalizing middle with
  | nil =>
    rw [List.foldlM_nil, pure_eq_ok] at done
    exact done ▸ start
  | cons a rest ih =>
    rw [List.foldlM_cons, bind_eq_ok] at done
    obtain ⟨next, first, others⟩ := done
    exact ih (each start first) others

theorem Seeds.insertMenu (start : Seeds former middle) {d : Menu.Draft} {m : Menu}
    (free : d.id = none) (done : middle.insertMenu d = .ok (db, m)) : Seeds former db := by
  obtain ⟨-, ⟨_, _, rfl⟩, rfl⟩ := (insertMenu_eq_ok free).mp done
  exact start.menu rfl

theorem Seeds.insertRoute (start : Seeds former middle) {d : Route.Draft} {r : Route}
    (free : d.id = none) (done : middle.insertRoute d = .ok (db, r)) : Seeds former db := by
  obtain ⟨-, ⟨_, _, _, _, _, _, _, _, _, rfl⟩, rfl⟩ := (insertRoute_eq_ok free).mp done
  exact start.route rfl

theorem seeds_of_seed (done : former.seed = .ok db) : Seeds former db := by
  unfold seed at done
  rw [bind_eq_ok] at done
  obtain ⟨⟨middle, root⟩, made, rest⟩ := done
  refine Seeds.foldlM (fun start done => ?_) (Seeds.refl.insertMenu rfl made) rest
  unfold addCatalogueMenu at done
  rw [bind_eq_ok] at done
  obtain ⟨⟨middle, menu⟩, made, routes⟩ := done
  refine Seeds.foldlM (fun start done => ?_) (start.insertMenu rfl made) routes
  rw [bind_eq_ok] at done
  obtain ⟨⟨after, row⟩, inserted, same⟩ := done
  cases same
  exact start.insertRoute rfl inserted

/-- The other tables stay what they are. -/
theorem Seeds.frame (seeds : Seeds former db) :
    db = { former with menus := db.menus, routes := db.routes } := by
  induction seeds with
  | refl => rfl
  | menu _ _ ih =>
    rw [ih]
  | route _ _ ih =>
    rw [ih]

end Database

namespace State

variable {s : State}

theorem seeds_of_seeded {db : Database} (done : s.seeded.outcome = .ok db) :
    s.database.Seeds db := by
  unfold seeded at done
  rw [Journal.outcome_bind_eq_ok] at done
  obtain ⟨menus, read, done⟩ := done
  split at done
  · simp only [Journal.outcome_bind_eq_ok, Journal.outcome_pure_eq_ok] at done
    obtain ⟨_, seeded, _, _, _, _, rfl⟩ := done
    exact Database.seeds_of_seed seeded
  · rw [Journal.outcome_pure_eq_ok] at done
    exact done ▸ .refl

end State

end Tenancy
