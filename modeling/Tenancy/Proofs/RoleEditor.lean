import Tenancy.Proofs.CommonShape
import Tenancy.Proofs.MenuRoutes

/-!
# Saving what a role editor shows

An editor of roles shows a tree of menus with boxes. What it saves are the ids of the menus whose
boxes have a mark, those further up included. Nothing is lost and nothing is gained that way, as
only the marks at the ends of the tree count (`role_editor_round_trip`).

* `mem_marked_iff`: an end of the tree is among the ids that are saved if it was selected.
* `authTree_of_marked`, `menuForest_of_marked`: so the tree that is built from these ids is the
  same.
* `RoleMade.menusOf_eq`: a new role has the menus that were saved, and no others.
-/

namespace Tenancy

/-- The ids of the nodes with a mark. -/
def Forest.marked (mark : TreeNode → Bool) (t : Forest TreeNode) : List Int :=
  (t.labels.filter mark).map (·.id)

theorem Forest.mem_marked {mark : TreeNode → Bool} {t : Forest TreeNode} {id : Int} :
    id ∈ t.marked mark ↔ ∃ node ∈ t.labels, mark node = true ∧ node.id = id := by
  simp [marked, and_assoc]

theorem Selection.ofIds_congr {ids others : List Int} (same : ∀ id, id ∈ ids ↔ id ∈ others) :
    Selection.ofIds ids = Selection.ofIds others := by
  funext id
  simp only [ofIds, List.contains_eq_mem, same]

/-! ## The tree -/

namespace Menu

variable {menus : List MenuRow} {selection : Selection} {parent : Int} {tree : Forest TreeNode}
  {mark : TreeNode → Bool}

/-- The mark of an end of the tree is saved if the end was selected: no other menu has its id. -/
theorem mem_marked_iff (built : authTree menus selection parent = some tree)
    (marks : ∀ menu, mark (leafBox selection menu) = selection menu.1) {leaf : TreeNode}
    (last : leaf ∈ tree.leaves) : leaf.id ∈ tree.marked mark ↔ selection leaf.id = true := by
  have shown : leaf ∈ tree.labels := Forest.label_mem_labels (Forest.mem_leaves.mp last)
  obtain ⟨menu, rfl⟩ := exists_leafBox built last
  rw [Forest.mem_marked]
  constructor
  · rintro ⟨node, listed, marked, same⟩
    rw [List.inj_on_of_nodup_map (nodup_ids_authTree built) listed shown same, marks] at marked
    exact marked
  · exact fun chosen => ⟨_, shown, (marks menu).trans chosen, rfl⟩

/-- The ids of the marked nodes, in whatever order, select the same boxes. -/
theorem authTree_of_marked (built : authTree menus selection parent = some tree)
    (marks : ∀ menu, mark (leafBox selection menu) = selection menu.1) :
    authTree menus (Selection.ofIds (tree.marked mark)) parent = some tree := by
  obtain ⟨named, rfl, -, rebuilt⟩ := exists_of_authTree built
  rw [rebuilt]
  refine congrArg some (check_congr fun menu last => ?_)
  have leaf : leafBox selection menu ∈ (check selection named).leaves := by
    rw [leaves_check]
    exact List.mem_map_of_mem last
  rw [Bool.eq_iff_iff, Selection.ofIds, List.contains_iff_mem]
  exact mem_marked_iff built marks leaf

end Menu

/-- All menus of a database have names, so that there is a tree of them. -/
theorem Database.exists_authTree (db : Database) (selection : Selection) :
    ∃ tree, Menu.authTree (db.orderedMenus.map fun m => ⟨some m.id, some m.name, m.parentId⟩)
      selection = some tree := by
  rw [Menu.exists_authTree_iff]
  intro item listed
  obtain ⟨row, present, -, named⟩ := Menu.exists_row_of_mem_visited listed
  obtain ⟨m, -, rfl⟩ := List.mem_map.mp present
  rw [← named]
  exact Option.some_ne_none _

theorem Database.menuForest_of_marked {db : Database} {selection : Selection}
    {mark : TreeNode → Bool}
    (marks : ∀ menu, mark (Menu.leafBox selection menu) = selection menu.1) :
    db.menuForest (Selection.ofIds ((db.menuForest selection).marked mark)) =
      db.menuForest selection := by
  obtain ⟨tree, built⟩ := db.exists_authTree selection
  rw [menuForest, menuForest, built, Option.getD_some, Menu.authTree_of_marked built marks,
    Option.getD_some]

/-! ## The role -/

namespace State

variable {s t u : State}

theorem roleDetail_eq_ok {id : Int} {detail : RoleDetail} :
    (s.roleDetail id).outcome = .ok detail ↔ ∃ role, s.database.role id = .ok role ∧
      detail = ⟨role, s.database.menuForest (Selection.ofIds (s.database.menusOf role.id))⟩ := by
  simp only [roleDetail, State.role, State.menusOf, State.menuForest, Journal.outcome_bind_eq_ok,
    Journal.outcome_query, Journal.outcome_read, Journal.outcome_pure_eq_ok, Except.ok.injEq,
    exists_eq_left', @eq_comm _ _ detail]

/-- A new role has the menus that were asked for. -/
theorem RoleMade.menusOf_eq {caller : Int} {request : NewRole} {r : Role} {menus : List Menu}
    {current : Account} (made : RoleMade s caller request t r menus current)
    (consistent : s.database.Consistent) :
    t.database.menusOf r.id = distinct request.menuIds := by
  have former : s.database.roleMenus.filter (·.roleId = r.id) = [] := by
    rw [List.filter_eq_nil_iff]
    intro row present
    obtain ⟨⟨role, known, own, -⟩, -⟩ := consistent.roleMenus row present
    simpa [← own] using made.id_ne known
  have own : ∀ row ∈ Database.roleMenuRows r (Database.nextId (s.database.roleMenus.map (·.id)))
      menus, decide (row.roleId = r.id) = true :=
    fun row new => decide_eq_true (Database.roleId_of_mem_roleMenuRows new)
  rw [made.state, Database.menusOf, List.filter_append, former, List.nil_append,
    List.filter_eq_self.mpr own, Database.map_menuId_roleMenuRows, made.requested]

/-- A role that is made with the marks of a tree is shown with this tree ever after. -/
theorem roleDetail_of_marked (regular : s.Regular) {id caller : Int} {detail : RoleDetail}
    (shown : (s.roleDetail id).outcome = .ok detail) {mark : TreeNode → Bool}
    (marks : ∀ selection menu, mark (Menu.leafBox selection menu) = selection menu.1)
    {request : NewRole} (saved : ∀ menu, menu ∈ request.menuIds ↔ menu ∈ detail.menus.marked mark)
    {role : Role} (done : (s.createRole caller request).outcome = .ok (t, role))
    {allowed : State → Operation → Prop} (run : Reaches allowed t u)
    (fits : fits64 role.id = true) :
    (u.roleDetail role.id).outcome = .ok ⟨role, detail.menus⟩ := by
  obtain ⟨menus, current, made⟩ := roleMade done
  obtain ⟨former, -, rfl⟩ := roleDetail_eq_ok.mp shown
  have asking := (mem_of_account made.asking).1
  have next := regular_moved (.role done) regular
  have present : role ∈ t.database.roles := by
    rw [made.state]
    exact List.mem_append_right _ List.mem_cons_self
  have later := run.regular next
  have found : u.database.role role.id = .ok role := by
    show Database.lookup _ _ _ _ = _
    rw [Database.lookup_of_mem later.numbered.roles.nodup (run.extends.roles.subset present),
      if_pos fits]
  have forest : ∀ selection, u.database.menuForest selection = s.database.menuForest selection := by
    intro selection
    have remains : current ∈ t.database.accounts := by rwa [made.state]
    rw [run.menuForest next remains, made.state]
    rfl
  have chosen : Selection.ofIds (u.database.menusOf role.id) = Selection.ofIds
      ((s.database.menuForest (Selection.ofIds (s.database.menusOf former.id))).marked mark) := by
    rw [run.menusOf present, made.menusOf_eq regular.consistent]
    exact Selection.ofIds_congr fun menu => mem_distinct.trans (saved menu)
  rw [roleDetail_eq_ok]
  refine ⟨role, found, ?_⟩
  rw [chosen, forest, Database.menuForest_of_marked (marks _)]

end State

/-- What an editor of roles shows can be saved and opened again. The ids of all nodes that are
selected, with those further up among them, give the same tree, and so do the ids of all that are
authorized, whatever the tree was built from. A role that is made with these menus, in whatever
order, is shown with the same tree at once and after any operations that follow. Its id has to be
one that the database can hold. -/
theorem role_editor_round_trip :
    (∀ (menus : List MenuRow) (selection : Selection) (parent : Int) (tree : Forest TreeNode),
      Menu.authTree menus selection parent = some tree →
        Menu.authTree menus (Selection.ofIds (tree.marked (·.selected))) parent = some tree ∧
        Menu.authTree menus (Selection.ofIds (tree.marked (·.authorized))) parent = some tree) ∧
    ∀ (s t u : State) (id caller : Int) (detail : RoleDetail) (request : NewRole) (role : Role),
      s.Reachable → (s.roleDetail id).outcome = .ok detail →
      ((∀ menu, menu ∈ request.menuIds ↔ menu ∈ detail.menus.marked (·.selected)) ∨
        ∀ menu, menu ∈ request.menuIds ↔ menu ∈ detail.menus.marked (·.authorized)) →
      (s.createRole caller request).outcome = .ok (t, role) →
      State.Reaches (fun _ _ => True) t u → fits64 role.id = true →
        (u.roleDetail role.id).outcome = .ok ⟨role, detail.menus⟩ := by
  refine ⟨fun menus selection parent tree built => ?_,
    fun s t u id caller detail request role reachable shown saved done run fits => ?_⟩
  · exact ⟨Menu.authTree_of_marked built fun _ => rfl, Menu.authTree_of_marked built fun _ => rfl⟩
  · have regular := State.Reachable.regular reachable
    rcases saved with selected | authorized
    · exact State.roleDetail_of_marked regular shown (fun _ _ => rfl) selected done run fits
    · exact State.roleDetail_of_marked regular shown (fun _ _ => rfl) authorized done run fits

/-- A role with the menus that the editor marks for the manager. The first of them is one that the
manager was not given. -/
def deputy : NewRole :=
  { name := "deputy", description := none, isDeletable := true, menuIds := [1, 4, 3, 2] }

/-- The reports are shown with the same boxes when the marks are fed back, although the selection
named two menus that have others below them. The deputy is shown with the menus of the manager, also
after a promotion. -/
theorem deputy_is_shown_as_manager :
    (∃ tree, Menu.authTree reportMenus (Selection.ofIds [4, 1, 3]) = some tree ∧
      tree.marked (·.selected) = [4] ∧ tree.marked (·.authorized) = [1, 3, 4] ∧
      Menu.authTree reportMenus (Selection.ofIds (tree.marked (·.selected))) = some tree ∧
      Menu.authTree reportMenus (Selection.ofIds (tree.marked (·.authorized))) = some tree) ∧
    ∃ detail t role, (company.roleDetail 1).outcome = .ok detail ∧
      (company.createRole 1 deputy).outcome = .ok (t, role) ∧
      ((t.run promotion).roleDetail role.id).outcome = .ok ⟨role, detail.menus⟩ := by
  obtain ⟨onTree, onState⟩ := role_editor_round_trip
  have run : (Menu.authTree reportMenus (Selection.ofIds [4, 1, 3])).any (fun tree =>
      tree.marked (·.selected) == [4] && tree.marked (·.authorized) == [1, 3, 4]) = true := by
    decide +kernel
  simp only [Option.any_eq_true, Bool.and_eq_true, beq_iff_eq] at run
  obtain ⟨tree, built, selected, authorized⟩ := run
  obtain ⟨detail, shown⟩ := exists_of_isOk (x := (company.roleDetail 1).outcome) (by decide +kernel)
  obtain ⟨⟨t, role⟩, done⟩ :=
    exists_of_isOk (x := (company.createRole 1 deputy).outcome) (by decide +kernel)
  have own : (company.createRole 1 deputy).outcome.toOption.map (·.2.id) = some 2 := by
    decide +kernel
  rw [done] at own
  have marks : detail.menus.marked (·.authorized) = [1, 2, 3, 4] := by
    have member : ∃ a, a ∈ company.database.accounts := ⟨_, List.mem_cons_self⟩
    obtain ⟨a, present⟩ := member
    obtain ⟨former, found, rfl⟩ := State.roleDetail_eq_ok.mp shown
    have regular := State.Reachable.regular reachable_company
    rw [(Database.mem_of_lookup found).2, (regular.founded present).menuForest]
    show (Menu.check (Selection.ofIds (company.database.menusOf 1)) foundedForest).marked _ = _
    decide +kernel
  refine ⟨⟨tree, built, selected, authorized, onTree _ _ _ tree built⟩, detail, t, role, shown,
    done, onState company t (t.run promotion) 1 1 detail deputy role reachable_company shown
      (.inr ?_) done (.run fun _ _ _ => trivial) ?_⟩
  · intro menu
    rw [marks]
    simp only [deputy, List.mem_cons, List.not_mem_nil, or_false]
    tauto
  · have second : role.id = 2 := Option.some.inj own
    rw [second]
    decide

end Tenancy
