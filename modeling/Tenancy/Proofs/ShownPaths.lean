import Mathlib.Data.List.TakeWhile
import Tenancy.Http.Message

/-!
# Shown paths

The policy and the audit trail know a request by the path of its URL, and the host goes into the URL
as the sender names it. If the host has none of the characters at which an authority ends, the path
that is shown is the one of the request (`urlPath?_of_namesHost`). Otherwise the sender decides what
is shown, whatever the request is (`urlPath?_of_disguise`).
-/

namespace Tenancy.Http

variable {host path rest : List Char}

/-- The path is shown as it is: no character is dropped from it or ends it. -/
def StaysShown (path : List Char) : Prop :=
  ∀ c ∈ path, isSkipped c = false ∧ endsPath c = false

instance : DecidablePred StaysShown :=
  fun path => List.decidableBAll _ path

theorem filter_of_shown (kept : StaysShown path) :
    path.filter (!isSkipped ·) = path :=
  List.filter_eq_self.mpr fun c listed => by rw [(kept c listed).1]; rfl

theorem takeWhile_of_shown (kept : StaysShown path) :
    ∀ c ∈ path, (!endsPath c) = true := by
  intro c listed
  rw [(kept c listed).2]
  rfl

/-- A shown path ends where what follows would end it at once. -/
theorem takeWhile_filter_append (kept : StaysShown path)
    (ends : (rest.filter (!isSkipped ·)).takeWhile (!endsPath ·) = []) :
    ((path ++ rest).filter (!isSkipped ·)).takeWhile (!endsPath ·) = path := by
  rw [List.filter_append, filter_of_shown kept,
    List.takeWhile_append_of_pos (takeWhile_of_shown kept), ends, List.append_nil]

/-- Behind a host without an end of authorities, the path begins with the first slash. -/
theorem pathBehind?_append (plain : ∀ c ∈ host, endsAuthority c = false) (rest : List Char) :
    pathBehind? (host ++ '/' :: rest) =
      if isAuthority (host.filter (!isSkipped ·)) then
        some ((('/' :: rest).filter (!isSkipped ·)).takeWhile (!endsPath ·))
      else none := by
  have cut : (host ++ '/' :: rest).filter (!isSkipped ·) =
      host.filter (!isSkipped ·) ++ ('/' :: rest).filter (!isSkipped ·) :=
    List.filter_append ..
  have stays : ∀ c ∈ host.filter (!isSkipped ·), (!endsAuthority c) = true := by
    intro c listed
    rw [plain c (List.mem_filter.mp listed).1]
    rfl
  have slash : ('/' :: rest).filter (!isSkipped ·) = '/' :: rest.filter (!isSkipped ·) :=
    List.filter_cons_of_pos rfl
  have front : (host.filter (!isSkipped ·) ++ ('/' :: rest).filter (!isSkipped ·)).takeWhile
      (!endsAuthority ·) = host.filter (!isSkipped ·) := by
    rw [slash, List.takeWhile_append_of_pos stays, List.takeWhile_cons_of_neg (by decide),
      List.append_nil]
  simp only [pathBehind?, cut, front, List.drop_left]

/-- A path in the host, with a question mark behind it, is the one that is shown. -/
theorem pathBehind?_disguise (kept : StaysShown ('/' :: path)) (rest : List Char) :
    pathBehind? ('x' :: ('/' :: path) ++ '?' :: rest) = some ('/' :: path) := by
  have ends : (('?' :: rest).filter (!isSkipped ·)).takeWhile (!endsPath ·) = [] := by
    rw [List.filter_cons_of_pos rfl, List.takeWhile_cons_of_neg (by decide)]
  have plain : ∀ c ∈ ['x'], endsAuthority c = false := List.forall_mem_singleton.mpr rfl
  have whole := pathBehind?_append plain (path ++ '?' :: rest)
  rw [if_pos (by decide), ← List.cons_append, takeWhile_filter_append kept ends] at whole
  exact whole

namespace Request

variable {r : Request}

/-- The request is a `POST` on the path; a line end behind the path is overlooked. -/
def PostsTo (r : Request) (path : String) : Prop :=
  r.method = "POST" ∧ (r.plainPath = path.toList ∨ r.plainPath = path.toList ++ ['\n'])

instance (path : String) : Decidable (r.PostsTo path) :=
  inferInstanceAs (Decidable (_ ∧ _))

/-- The host that the sender names has no slash, question mark or number sign. -/
def NamesHost (r : Request) : Prop :=
  ∀ c ∈ headerText r.host, endsAuthority c = false

instance : Decidable r.NamesHost :=
  List.decidableBAll _ (headerText r.host)

/-- The query ends the path that stands before it. -/
theorem exists_query {path address : List Char} (told : r.addressWith? path = some address) :
    ∃ query, address = headerText r.host ++ path ++ query ∧
      (query.filter (!isSkipped ·)).takeWhile (!endsPath ·) = [] := by
  unfold addressWith? at told
  split at told
  · cases told
    exact ⟨[], (List.append_nil _).symm, rfl⟩
  · split at told
    · cases told
    · next query _ =>
      cases told
      exact ⟨'?' :: query, rfl, by
        rw [List.filter_cons_of_pos rfl, List.takeWhile_cons_of_neg (by decide)]⟩

/-- If the host is no more than a host, the path that is posted to is shown, if any is. -/
theorem urlPath?_of_namesHost (named : r.NamesHost) {path shown : String} {rest : List Char}
    (begins : path.toList = '/' :: rest) (kept : StaysShown path.toList)
    (posts : r.PostsTo path) (told : r.urlPath? = some shown) : shown = path := by
  obtain ⟨address, located, told⟩ := Option.bind_eq_some_iff.mp told
  obtain ⟨found, behind, same⟩ := Option.bind_eq_some_iff.mp told
  obtain ⟨query, rfl, ends⟩ := exists_query located
  cases same
  obtain ⟨lineEnd, plain, dropped⟩ : ∃ lineEnd, r.plainPath = path.toList ++ lineEnd ∧
      ((lineEnd ++ query).filter (!isSkipped ·)).takeWhile (!endsPath ·) = [] := by
    rcases posts.2 with plain | plain
    · exact ⟨[], by rw [plain, List.append_nil], ends⟩
    · exact ⟨['\n'], plain, ends⟩
  rw [plain, List.append_assoc, List.append_assoc, begins, List.cons_append,
    pathBehind?_append named, ← List.cons_append, ← begins,
    takeWhile_filter_append kept dropped] at behind
  obtain ⟨-, same⟩ := Option.ite_none_right_eq_some.mp behind
  rw [← Option.some.inj same, String.ofList_toList]

/-- Whatever a request is posted to, its sender can have any path shown by the host. -/
theorem urlPath?_of_disguise {path : List Char} (kept : StaysShown ('/' :: path))
    (host : headerText r.host = 'x' :: ('/' :: path) ++ ['?'])
    (text : (Text.Utf8.decode r.query).isOk = true) :
    r.urlPath? = some (String.ofList ('/' :: path)) := by
  obtain ⟨address, located⟩ : ∃ address, r.addressWith? r.plainPath = some address := by
    unfold addressWith?
    split
    · exact ⟨_, rfl⟩
    · cases read : Text.Utf8.decode r.query with
      | error e =>
        rw [read] at text
        cases text
      | ok query => exact ⟨_, rfl⟩
  obtain ⟨query, rfl, -⟩ := exists_query located
  have shown := pathBehind?_disguise kept (r.plainPath ++ query)
  simp only [urlPath?, located, host, List.append_assoc, List.cons_append, List.nil_append,
    Option.bind_eq_bind, Option.bind_some] at shown ⊢
  rw [shown]
  rfl

end Request

end Tenancy.Http
