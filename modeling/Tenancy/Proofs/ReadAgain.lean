import Tenancy.Proofs.Addresses
import Tenancy.Proofs.Paging
import Tenancy.Proofs.TextForms
import Tenancy.Validation.Request

/-!
# Reading again what has been read

What a request is read as can be given back as a request.

* `TextRule.normal_of_apply`: a text that is accepted is in the normal form of its rule.
* `TextRule.apply_eq_self_iff`: the normal form is accepted if it is not too long, and is its own.
  The length is checked before letters are put into lower case, so that U+0130 can make it so.
* `requests_read_again`: the same for requests.
-/

namespace Tenancy

open Validation

namespace Validation

/-! ## Texts -/

/-- The normal form of texts under a rule. -/
structure TextRule.Normal (rule : TextRule) (t : String) : Prop where
  trimmed : Text.trim t.toList = t.toList
  lowered : rule.lower = true → Text.lower Text.edition17 t.toList = t.toList
  least : rule.least ≤ t.length

section Rule

variable {rule : TextRule} {raw t : String}

/-- The characters of what a rule makes of a text. -/
def TextRule.formed (rule : TextRule) (s : List Char) : List Char :=
  if rule.lower then Text.lower Text.edition17 (Text.trim s) else Text.trim s

theorem TextRule.apply_eq_ok :
    rule.apply raw = .ok t ↔
      rule.least ≤ (Text.trim raw.toList).length ∧ (Text.trim raw.toList).length ≤ rule.most ∧
        rule.formed raw.toList = t.toList := by
  show (if (Text.trim raw.toList).length < rule.least then .error (Complaint.tooShort rule.least)
    else if rule.most < (Text.trim raw.toList).length then .error (Complaint.tooLong rule.most)
    else .ok (String.ofList (rule.formed raw.toList))) = Except.ok t ↔ _
  split
  · next short =>
    simp only [reduceCtorEq, false_iff]
    omega
  · split
    · next long =>
      simp only [reduceCtorEq, false_iff]
      omega
    · next enough few =>
      rw [Except.ok.injEq, ← String.toList_inj, String.toList_ofList]
      constructor
      · intro same
        exact ⟨Nat.not_lt.mp enough, Nat.not_lt.mp few, same⟩
      · rintro ⟨-, -, same⟩
        exact same

theorem TextRule.length_formed (rule : TextRule) (s : List Char) :
    (rule.formed s).length = (Text.trim s).length +
      if rule.lower then (Text.trim s).count Text.longCapital else 0 := by
  unfold formed
  split
  · exact Text.length_lower
  · rfl

theorem TextRule.normal_of_apply (accepted : rule.apply raw = .ok t) : rule.Normal t := by
  obtain ⟨least, -, formed⟩ := TextRule.apply_eq_ok.mp accepted
  constructor
  · rw [← formed, TextRule.formed]
    split
    · exact Text.trim_lower_trim
    · exact Text.trimWith_trimWith
  · intro lower
    rw [← formed, TextRule.formed, if_pos lower]
    exact Text.lower_lower
  · rw [← String.length_toList, ← formed, rule.length_formed]
    omega

theorem TextRule.Normal.apply_eq_self_iff (normal : rule.Normal t) :
    rule.apply t = .ok t ↔ t.length ≤ rule.most := by
  have formed : rule.formed t.toList = t.toList := by
    unfold TextRule.formed
    split
    · next lower => rw [normal.trimmed, normal.lowered lower]
    · exact normal.trimmed
  rw [TextRule.apply_eq_ok, normal.trimmed, formed, String.length_toList]
  constructor
  · rintro ⟨-, most, -⟩
    exact most
  · exact fun most => ⟨normal.least, most, rfl⟩

/-- Only the capital that becomes longer makes a text longer than its rule allows. -/
theorem TextRule.length_le (accepted : rule.apply raw = .ok t)
    (short : rule.lower = false ∨ Text.longCapital ∉ raw.toList) : t.length ≤ rule.most := by
  obtain ⟨-, most, formed⟩ := TextRule.apply_eq_ok.mp accepted
  rw [← String.length_toList, ← formed, rule.length_formed]
  rcases short with kept | free
  · rw [if_neg (by simp [kept])]
    exact most
  · have none : (Text.trim raw.toList).count Text.longCapital = 0 :=
      List.count_eq_zero.mpr fun listed => free (Text.trim_sublist.subset listed)
    rw [none, ite_self]
    exact most

end Rule

/-! ## Members -/

section Member

variable {α : Type} {m : Json.Members} {field : String} {a : α} {reader : Json → Checked α}

theorem required_eq_ok :
    required m field reader = .ok a ↔
      ∃ value, m.get? field = some value ∧ reader value = .ok a := by
  unfold required
  cases m.get? field with
  | none => simp
  | some value => simp

section Cons

variable {value : Json} {absent : α} {name : String}

theorem get?_cons_of_ne (other : name ≠ field) :
    Json.Members.get? ((.sound name, value) :: m) field = m.get? field := by
  have differs : (Json.Str.sound field == .sound name) = false := by
    simpa using other.symm
  rw [Json.Members.get?, List.lookup_cons, differs]
  rfl

theorem get?_cons_self : Json.Members.get? ((.sound field, value) :: m) field = some value := by
  rw [Json.Members.get?, List.lookup_cons, beq_self_eq_true]

theorem required_cons_self :
    required ((.sound field, value) :: m) field reader = .ok a ↔ reader value = .ok a := by
  rw [required, get?_cons_self, Checked.within_eq_ok]

theorem required_cons_of_ne (other : name ≠ field) :
    required ((.sound name, value) :: m) field reader = .ok a ↔
      required m field reader = .ok a := by
  rw [required_eq_ok, required_eq_ok, get?_cons_of_ne other]

theorem optional_cons_self :
    optional ((.sound field, value) :: m) field absent reader = .ok a ↔ reader value = .ok a := by
  rw [optional, get?_cons_self, Checked.within_eq_ok]

theorem optional_cons_of_ne (other : name ≠ field) :
    optional ((.sound name, value) :: m) field absent reader = .ok a ↔
      optional m field absent reader = .ok a := by
  rw [optional_eq_ok, optional_eq_ok, get?_cons_of_ne other]

end Cons

theorem whole_eq_ok {single : Json → Except Complaint α} {value : Json} :
    whole single value = .ok a ↔ single value = .ok a :=
  mapError_eq_ok

theorem readText_eq_ok {rule : TextRule} {value : Json} {t : String} :
    readText rule value = .ok t ↔ ∃ raw, value = .str raw ∧ rule.apply raw = .ok t := by
  constructor
  · intro accepted
    unfold readText at accepted
    split at accepted
    · next raw => exact ⟨raw, rfl, accepted⟩
    · cases accepted
    · cases accepted
  · rintro ⟨raw, rfl, accepted⟩
    exact accepted

theorem required_text {rule : TextRule} {t : String}
    (accepted : required m field (whole (readText rule)) = .ok t) :
    ∃ raw, m.get? field = some (.str raw) ∧ rule.apply raw = .ok t := by
  obtain ⟨value, given, read⟩ := required_eq_ok.mp accepted
  obtain ⟨raw, rfl, applied⟩ := readText_eq_ok.mp (whole_eq_ok.mp read)
  exact ⟨raw, given, applied⟩

theorem nullable_ofText? {rule : TextRule} {d : Option String} :
    nullable (whole (readText rule)) (Json.ofText? d) = .ok d ↔
      ∀ t ∈ d, rule.apply t = .ok t := by
  cases d with
  | none => exact ⟨fun _ => nofun, fun _ => rfl⟩
  | some t =>
    have shown : nullable (whole (readText rule)) (Json.ofText? (some t)) =
        (whole (readText rule) (.str t)).map some := rfl
    rw [shown, map_eq_ok]
    simp only [whole_eq_ok, Option.some.injEq, exists_eq_right, Option.mem_some_iff,
      forall_eq']
    exact Iff.rfl

theorem read_ofText? {e : Option String} :
    Email.read (Json.ofText? e) = .ok e ↔ ∀ t ∈ e, Email.parse? t = some t := by
  cases e with
  | none => exact ⟨fun _ => nofun, fun _ => rfl⟩
  | some t =>
    show Email.read (.str t) = .ok (some t) ↔ _
    simp only [Email.read, Option.mem_some_iff, forall_eq']
    cases Email.parse? t with
    | none => simp
    | some address => simp

/-- By induction on the integers; the index only names the place of an issue. -/
theorem readInts_map (ns : List Int) : readInts (.arr (ns.map .int)) = .ok ns := by
  have read (ns : List Int) (index : Nat) :
      ((ns.map Json.int).zipIdx index).foldr (fun item (found : Checked (List Int)) =>
        (Checked.both ((whole readInt item.1).within [.index item.2]) found).map
          fun pair => pair.1 :: pair.2) (.ok []) = .ok ns := by
    induction ns generalizing index with
    | nil => rfl
    | cons n ns ih =>
      rw [List.map_cons, List.zipIdx_cons, List.foldr_cons, ih]
      rfl
  exact read ns 0

end Member

end Validation

/-! ## Requests -/

/-- The text of a member of an object. -/
def Json.textOf? (data : Json) (field : String) : Option String :=
  match data with
  | .obj members =>
    match Json.Members.get? members field with
    | some (.str s) => some s
    | _ => none
  | _ => none

/-- What becomes of a raw text as a name: the normal form of the rule, which the capital that
becomes longer may make too long. -/
structure Names (rule : TextRule) (raw name : String) : Prop where
  normal : rule.Normal name
  short : Text.longCapital ∉ raw.toList → name.length ≤ rule.most

section Requests

variable {data : Json} {model : String}

theorem readModel_eq_ok {α : Type} {read : Json.Members → Checked α} {a : α} :
    readModel model read data = .ok a ↔ ∃ members, data = .obj members ∧ read members = .ok a := by
  constructor
  · intro accepted
    unfold readModel at accepted
    split at accepted
    · next members => exact ⟨members, rfl, accepted⟩
    · cases accepted
  · rintro ⟨members, rfl, accepted⟩
    exact accepted

theorem names_of_required {members : Json.Members} {field name : String} {rule : TextRule}
    (accepted : required members field (whole (readText rule)) = .ok name) :
    ∃ raw, (Json.obj members).textOf? field = some raw ∧ Names rule raw name := by
  obtain ⟨raw, given, applied⟩ := required_text accepted
  refine ⟨raw, ?_, TextRule.normal_of_apply applied,
    fun free => TextRule.length_le applied (.inr free)⟩
  rw [Json.textOf?, given]

/-- A text under a rule that leaves capital letters alone is read as itself. -/
theorem apply_of_required {members : Json.Members} {field t : String} {rule : TextRule}
    (accepted : required members field (whole (readText rule)) = .ok t)
    (kept : rule.lower = false) : rule.apply t = .ok t := by
  obtain ⟨raw, -, applied⟩ := required_text accepted
  exact (TextRule.normal_of_apply applied).apply_eq_self_iff.mpr
    (TextRule.length_le applied (.inl kept))

theorem apply_of_optional {members : Json.Members} {field : String} {d : Option String}
    {rule : TextRule}
    (accepted : optional members field none (nullable (whole (readText rule))) = .ok d)
    (kept : rule.lower = false) : ∀ t ∈ d, rule.apply t = .ok t := by
  rcases optional_eq_ok.mp accepted with ⟨value, -, read⟩ | ⟨-, rfl⟩
  · unfold nullable at read
    split at read
    · cases read
      exact nofun
    · obtain ⟨t, single, rfl⟩ := map_eq_ok.mp read
      obtain ⟨raw, -, applied⟩ := readText_eq_ok.mp (whole_eq_ok.mp single)
      rintro _ ⟨⟩
      exact (TextRule.normal_of_apply applied).apply_eq_self_iff.mpr
        (TextRule.length_le applied (.inl kept))
  · exact nofun

theorem parsed_of_optional {members : Json.Members} {field : String} {e : Option String}
    (accepted : optional members field none (whole Email.read) = .ok e) :
    ∀ address ∈ e, ∃ raw, Email.parse? raw = some address := by
  rcases optional_eq_ok.mp accepted with ⟨value, -, read⟩ | ⟨-, rfl⟩
  · rw [whole_eq_ok] at read
    unfold Email.read at read
    split at read
    · cases read
      exact nofun
    · next raw =>
      split at read
      · next found =>
        cases read
        rintro _ ⟨⟩
        exact ⟨raw, found⟩
      · cases read
    · cases read
    · cases read
  · exact nofun

/-! ### What is read again -/

theorem Credentials.read_toJson {c : Credentials} :
    readModel model Credentials.read c.toJson = .ok c ↔
      accountNameRule.apply c.username = .ok c.username ∧
        passwordRule.apply c.password = .ok c.password := by
  show Credentials.read [("username", .str c.username), ("password", .str c.password)] = .ok c ↔ _
  simp only [Credentials.read, map_eq_ok, Prod.exists, Checked.both_eq_ok, whole_eq_ok,
    required_cons_self, required_cons_of_ne, ne_eq, String.reduceEq, not_false_eq_true]
  constructor
  · rintro ⟨_, _, applied, rfl⟩
    exact applied
  · exact fun applied => ⟨_, _, applied, rfl⟩

theorem NewAccount.read_toJson {a : NewAccount} :
    readModel model NewAccount.read a.toJson = .ok a ↔
      accountNameRule.apply a.name = .ok a.name ∧ passwordRule.apply a.password = .ok a.password ∧
        Email.read (Json.ofText? a.email) = .ok a.email := by
  show NewAccount.read [("name", .str a.name), ("password", .str a.password),
    ("email", Json.ofText? a.email), ("organization_id", .int a.organizationId),
    ("role_id", .int a.roleId)] = .ok a ↔ _
  simp only [NewAccount.read, map_eq_ok, Prod.exists, Checked.both_eq_ok, whole_eq_ok,
    required_cons_self, required_cons_of_ne, optional_cons_self, optional_cons_of_ne, ne_eq,
    String.reduceEq, not_false_eq_true]
  constructor
  · rintro ⟨_, _, _, _, _, ⟨named, worded, mailed, -⟩, rfl⟩
    exact ⟨named, worded, mailed⟩
  · rintro ⟨named, worded, mailed⟩
    exact ⟨_, _, _, _, _, ⟨named, worded, mailed, rfl, rfl⟩, rfl⟩

theorem NewRole.read_toJson {r : NewRole} :
    readModel model NewRole.read r.toJson = .ok r ↔
      roleNameRule.apply r.name = .ok r.name ∧
        ∀ d ∈ r.description, roleDescriptionRule.apply d = .ok d := by
  show NewRole.read [("name", .str r.name), ("description", Json.ofText? r.description),
    ("is_deletable", .bool r.isDeletable), ("menu_ids", .arr (r.menuIds.map .int))] = .ok r ↔ _
  simp only [NewRole.read, map_eq_ok, Prod.exists, Checked.both_eq_ok, whole_eq_ok,
    required_cons_self, optional_cons_self, optional_cons_of_ne, ne_eq, String.reduceEq,
    not_false_eq_true]
  constructor
  · rintro ⟨_, _, _, _, ⟨named, described, -⟩, rfl⟩
    exact ⟨named, nullable_ofText?.mp described⟩
  · rintro ⟨named, described⟩
    exact ⟨_, _, _, _, ⟨named, nullable_ofText?.mpr described, rfl, readInts_map _⟩, rfl⟩

theorem NewOrganization.read_toJson {o : NewOrganization} :
    readModel model NewOrganization.read o.toJson = .ok o ↔
      organizationNameRule.apply o.name = .ok o.name := by
  show NewOrganization.read [("name", .str o.name), ("parent_id", .int o.parentId)] = .ok o ↔ _
  simp only [NewOrganization.read, map_eq_ok, Prod.exists, Checked.both_eq_ok, whole_eq_ok,
    required_cons_self, optional_cons_self, optional_cons_of_ne, ne_eq, String.reduceEq,
    not_false_eq_true]
  constructor
  · rintro ⟨_, _, ⟨named, -⟩, rfl⟩
    exact named
  · exact fun named => ⟨_, _, ⟨named, rfl⟩, rfl⟩

theorem Credentials.read_again {c : Credentials}
    (accepted : readModel model Credentials.read data = .ok c) :
    (∃ raw, data.textOf? "username" = some raw ∧ Names accountNameRule raw c.username) ∧
      (readModel model Credentials.read c.toJson = .ok c ↔ c.username.length ≤ 20) := by
  obtain ⟨members, rfl, read⟩ := readModel_eq_ok.mp accepted
  simp only [Credentials.read, map_eq_ok, Prod.exists, Checked.both_eq_ok] at read
  obtain ⟨username, password, ⟨named, worded⟩, rfl⟩ := read
  obtain ⟨raw, given, names⟩ := names_of_required named
  refine ⟨⟨raw, given, names⟩, ?_⟩
  rw [Credentials.read_toJson, and_iff_left (apply_of_required worded rfl)]
  exact names.normal.apply_eq_self_iff

theorem NewAccount.read_again {a : NewAccount}
    (accepted : readModel model NewAccount.read data = .ok a) :
    (∃ raw, data.textOf? "name" = some raw ∧ Names accountNameRule raw a.name) ∧
      (readModel model NewAccount.read a.toJson = .ok a ↔
        a.name.length ≤ 20 ∧ ∀ e ∈ a.email, ∀ c ∈ e.toList, ¬Domain.IsJoiner c) := by
  obtain ⟨members, rfl, read⟩ := readModel_eq_ok.mp accepted
  simp only [NewAccount.read, map_eq_ok, Prod.exists, Checked.both_eq_ok] at read
  obtain ⟨name, password, email, home, role, ⟨named, worded, mailed, -⟩, rfl⟩ := read
  obtain ⟨raw, given, names⟩ := names_of_required named
  refine ⟨⟨raw, given, names⟩, ?_⟩
  have address : (∀ e ∈ email, Email.parse? e = some e) ↔
      ∀ e ∈ email, ∀ c ∈ e.toList, ¬Domain.IsJoiner c :=
    forall₂_congr fun e within => by
      obtain ⟨_, parsed⟩ := parsed_of_optional mailed e within
      exact Email.parse?_again parsed
  rw [NewAccount.read_toJson, names.normal.apply_eq_self_iff,
    and_iff_right (apply_of_required worded rfl), read_ofText?, address]
  exact Iff.rfl

theorem NewRole.read_again {r : NewRole}
    (accepted : readModel model NewRole.read data = .ok r) :
    (∃ raw, data.textOf? "name" = some raw ∧ Names roleNameRule raw r.name) ∧
      (readModel model NewRole.read r.toJson = .ok r ↔ r.name.length ≤ 10) := by
  obtain ⟨members, rfl, read⟩ := readModel_eq_ok.mp accepted
  simp only [NewRole.read, map_eq_ok, Prod.exists, Checked.both_eq_ok] at read
  obtain ⟨name, description, isDeletable, menuIds, ⟨named, described, -⟩, rfl⟩ := read
  obtain ⟨raw, given, names⟩ := names_of_required named
  refine ⟨⟨raw, given, names⟩, ?_⟩
  have kept : ∀ d ∈ description, roleDescriptionRule.apply d = .ok d :=
    apply_of_optional described rfl
  rw [NewRole.read_toJson, and_iff_left kept]
  exact names.normal.apply_eq_self_iff

theorem NewOrganization.read_again {o : NewOrganization}
    (accepted : readModel model NewOrganization.read data = .ok o) :
    readModel model NewOrganization.read o.toJson = .ok o := by
  obtain ⟨members, rfl, read⟩ := readModel_eq_ok.mp accepted
  simp only [NewOrganization.read, map_eq_ok, Prod.exists, Checked.both_eq_ok] at read
  obtain ⟨name, parent, ⟨named, -⟩, rfl⟩ := read
  exact NewOrganization.read_toJson.mpr (apply_of_required named rfl)

end Requests

/-- An account that is asked for in a loose form. -/
def looseRequest : Json :=
  .obj [("name", .str " Alice\t"), ("password", .str "alice12345"),
    ("email", .str "Alice <alice@EXAMPLE.com>"), ("organization_id", .str "1"),
    ("role_id", .bool true)]

/-- Twenty capitals that become longer. -/
def longRequest : Json :=
  .obj [("username", .str (String.ofList (List.replicate 20 Text.longCapital))),
    ("password", .str "password1")]

end Tenancy
