import Tenancy.Number.Width
import Tenancy.Proofs.Base64
import Tenancy.Proofs.JsonObjects
import Tenancy.Proofs.SubjectReading
import Tenancy.Token.Basic
import Tenancy.Token.Lifetime

/-!
# Tokens read back

What is signed is verified as long as it is valid, and the subject of the claims names the account
that the token was made for.

* `segments_sign`: a token falls apart into the segments of which it was made, as no segment has a
  dot.
* `verify_sign`: flat claims come back from their signed form, once they pass their own checks.
* `readSubject_numeral`: the numeral of an id names the id.
-/

namespace Tenancy

namespace Token

/-! ## Segments -/

section Cut

variable {front behind : List UInt8}

theorem cutFirst?_append (free : dot ∉ front) :
    cutFirst? (front ++ dot :: behind) = some (front, behind) := by
  have other : ∀ octet ∈ front, decide (octet ≠ dot) = true := by
    intro octet listed
    exact decide_eq_true (ne_of_mem_of_not_mem listed free)
  rw [cutFirst?, List.takeWhile_append_of_pos other, List.dropWhile_append_of_pos other]
  simp

theorem cutLast?_append (free : dot ∉ behind) :
    cutLast? (front ++ dot :: behind) = some (front, behind) := by
  have turned : (front ++ dot :: behind).reverse = behind.reverse ++ dot :: front.reverse := by
    simp
  rw [cutLast?, turned, cutFirst?_append (by simpa using free)]
  simp

end Cut

theorem dot_not_mem_encode (octets : List UInt8) : dot ∉ Text.Base64Url.encode octets := by
  have differs : ∀ v < 64, Text.Base64Url.letter v ≠ dot := by decide
  intro listed
  obtain ⟨v, small, same⟩ := Text.Base64Url.isLetter_of_mem_encode octets dot listed
  exact differs v small same

/-- What is signed of claims. -/
def signed (claims : Claims) : List UInt8 :=
  segment header ++ dot :: segment (.obj claims)

section Sign

variable (settings : Settings)

theorem segments_sign (claims : Claims) :
    segments (sign settings claims) = .ok
      { signed := signed claims
        header := segment header
        payload := segment (.obj claims)
        signature := Text.Base64Url.encode (Hmac.digest (key settings) (signed claims)) } := by
  have outer : cutLast? (sign settings claims) =
      some (signed claims, Text.Base64Url.encode (Hmac.digest (key settings) (signed claims))) :=
    cutLast?_append (dot_not_mem_encode _)
  have inner : cutFirst? (signed claims) = some (segment header, segment (.obj claims)) :=
    cutFirst?_append (dot_not_mem_encode _)
  simp only [segments, outer, inner]

theorem unpack_encode (fault : TokenFault) (octets : List UInt8) :
    unpack fault (Text.Base64Url.encode octets) = .ok octets := by
  rw [unpack, Text.Base64Url.decode_encode]

theorem readObject_write {members : Json.Members} (flat : Json.AreFlat members)
    (unread : String → TokenFault) (shape : TokenFault) :
    readObject settings unread shape (Text.Utf8.encode (Json.obj members).write) =
      .ok members := by
  rw [readObject, Json.readOctets_write settings.tokenDepth_pos flat]

/-- The members of the header that is written. -/
def headerMembers : Json.Members :=
  [("alg", .str algorithm), ("typ", .str "JWT")]

theorem areFlat_headerMembers : Json.AreFlat headerMembers where
  sound := by decide
  flat := by
    simp only [headerMembers, List.forall_mem_cons]
    exact ⟨.text _, .text _, nofun⟩
  distinct := by decide

/-- Claims come back from their signed form, unless they are refused for what they say. -/
theorem verify_sign {claims : Claims} (flat : Json.AreFlat claims) (now : Int) :
    verify settings now (sign settings claims) =
      (checkClaims now claims).map fun _ => claims := by
  have unpacked : unpack .headerPadding (segment header) =
      .ok (Text.Utf8.encode header.write) := unpack_encode _ _
  have read : readObject settings .headerText .headerShape (Text.Utf8.encode header.write) =
      .ok headerMembers := readObject_write settings areFlat_headerMembers _ _
  have attached : readPayload headerMembers (segment (.obj claims)) =
      .ok (Text.Utf8.encode (Json.obj claims).write) := unpack_encode _ _
  have accepted : checkHeader headerMembers = .ok () := rfl
  rw [verify, segments_sign, ok_bind]
  simp only [unpacked, read, attached, accepted, unpack_encode, readObject_write settings flat,
    ok_bind, ne_eq, not_true_eq_false, if_false]
  cases checkClaims now claims <;> rfl

end Sign

/-! ## Claims -/

theorem checkTime_of_accepted {claims : Claims} {name : String} {notInteger refused : TokenFault}
    {accepts : Int → Bool} {time : Int} (given : claims.get? name = some (.int time))
    (accepted : accepts time = true) :
    checkTime claims name notInteger refused accepts = .ok () := by
  simp only [checkTime, given, timeOf?, accepted, if_true]

section Claims

variable {account issued now lifetime : Int} {name : String}

theorem checkClaims_claimsFor (begun : issued ≤ now) (unexpired : now < issued + lifetime) :
    checkClaims now (claimsFor issued account name lifetime) = .ok () := by
  have issuedAt : checkTime (claimsFor issued account name lifetime) "iat" .issuedAtNotInteger
      .issuedInFuture (· ≤ now) = .ok () :=
    checkTime_of_accepted rfl (decide_eq_true begun)
  have expiry : checkTime (claimsFor issued account name lifetime) "exp" .expiryNotInteger
      .expired (now < ·) = .ok () :=
    checkTime_of_accepted rfl (decide_eq_true unexpired)
  rw [checkClaims, issuedAt, expiry]
  rfl

theorem areFlat_claimsFor
    (short : (Nat.toDigits 10 issued.natAbs).length ≤ Text.maxDigits ∧
      (Nat.toDigits 10 (issued + lifetime).natAbs).length ≤ Text.maxDigits) :
    Json.AreFlat (claimsFor issued account name lifetime) where
  sound := by
    simp only [claimsFor, List.forall_mem_cons]
    exact ⟨rfl, rfl, rfl, rfl, nofun⟩
  flat := by
    simp only [claimsFor, List.forall_mem_cons]
    exact ⟨.text _, .text _, .integer short.1, .integer short.2, nofun⟩
  distinct := by
    simp only [claimsFor, List.map_cons, List.map_nil]
    decide

end Claims

end Token

/-! ## Subjects -/

section Subject

theorem decimalDigit?_digitChar : ∀ d < 10, Text.decimalDigit? (Nat.digitChar d) = some d := by
  decide

/-- A number is spelled by its digits. -/
theorem spells_toDigits (n : Nat) : Text.Spells (Nat.toDigits 10 n) n := by
  induction n using Nat.strongRecOn with
  | ind n ih =>
    rw [Nat.toDigits_eq_if (by decide)]
    split
    · next small => exact .digit (decimalDigit?_digitChar n small)
    · next large =>
      have last := decimalDigit?_digitChar (n % 10) (Nat.mod_lt n (by decide))
      have spells := Text.Spells.append (ih (n / 10) (by omega)) last
      rwa [Nat.div_add_mod] at spells

theorem readSubject_numeral {n : Int} (short : (Nat.toDigits 10 n.natAbs).length ≤ Text.maxDigits) :
    readSubject (Text.numeral n) = .ok n := by
  refine readSubject_of_showsInteger ?_
  cases n with
  | ofNat k => exact .natural short (spells_toDigits k)
  | negSucc k => exact .negative short (spells_toDigits (k + 1))

end Subject

namespace Token

/-! ## The round trip -/

/-- Numbers of twenty digits are far from being too long. -/
theorem short_of_bounds {n : Int} (bounds : n.natAbs < 100000000000000000000) :
    (Nat.toDigits 10 n.natAbs).length ≤ Text.maxDigits := by
  have small : n.natAbs < 10 ^ 20 := bounds
  have digits : (Nat.toDigits 10 n.natAbs).length ≤ 20 :=
    (Nat.length_toDigits_le_iff (by decide) (by decide)).mpr small
  exact Nat.le_trans digits (by decide)

/-- A lifetime that ends on a date is neither refused nor changed. -/
theorem lifetime_null {settings : Settings} {issued : Int} (positive : 0 < settings.lifetime)
    (dates : firstSecond ≤ issued ∧ issued + settings.lifetime ≤ lastSecond) :
    lifetime settings issued .null = .ok settings.lifetime := by
  have duration : lifetimeMicroseconds settings .null =
      .ok (settings.minutes * (minute : Int)) := rfl
  have seconds : (settings.minutes * (minute : Int)).fdiv 1000000 = settings.lifetime := by
    rw [Int.fdiv_eq_ediv_of_nonneg _ (by decide)]
    simp only [minute, Settings.lifetime]
    omega
  have days : settings.lifetime.fdiv 86400 = settings.lifetime / 86400 :=
    Int.fdiv_eq_ediv_of_nonneg _ (by decide)
  -- between the first and the last date there are far fewer days than a lifetime may have
  have room : settings.lifetime ≤ 315537897599 := by
    simp only [firstSecond, lastSecond] at dates
    omega
  have few : ¬maxDays < (settings.lifetime / 86400).natAbs := by
    unfold maxDays
    omega
  rw [lifetime, duration, ok_bind]
  simp only [seconds, days]
  rw [if_neg (by omega), if_neg few, if_neg (by omega)]
  rfl

/-- A token for any account, made on a date for the time that is set, is accepted up to its expiry.
It gives back the name as it is and the id, and what it says of its times is how long it is
valid. -/
theorem token_carries_account (settings : Settings) (account issued now : Int) (name : String)
    (fits : fits64 account = true)
    (dates : firstSecond ≤ issued ∧ issued + settings.lifetime ≤ lastSecond)
    (valid : issued ≤ now ∧ now < issued + settings.lifetime) :
    lifetime settings issued .null = .ok settings.lifetime ∧
      ∃ claims, verify settings now
          (sign settings (claimsFor issued account name settings.lifetime)) = .ok claims ∧
        claims.map (·.1) = ["sub", "name", "iat", "exp"] ∧
        claims.get? "name" = some (.str name) ∧
        (∃ begun ends, claims.get? "iat" = some (.int begun) ∧
          claims.get? "exp" = some (.int ends) ∧ ends - begun = settings.lifetime) ∧
        subjectOf claims = .ok account := by
  have flat : Json.AreFlat (claimsFor issued account name settings.lifetime) := by
    simp only [firstSecond, lastSecond] at dates
    exact areFlat_claimsFor ⟨short_of_bounds (by omega), short_of_bounds (by omega)⟩
  have short : (Nat.toDigits 10 account.natAbs).length ≤ Text.maxDigits := by
    simp only [fits64, Bool.and_eq_true, decide_eq_true_eq] at fits
    exact short_of_bounds (by omega)
  refine ⟨lifetime_null (by omega) dates, claimsFor issued account name settings.lifetime, ?_, rfl,
    rfl, ⟨issued, issued + settings.lifetime, rfl, rfl, by omega⟩, ?_⟩
  · rw [verify_sign settings flat, checkClaims_claimsFor valid.1 valid.2]
    rfl
  · show readSubject (String.ofList (Text.numeral account)).toList = .ok account
    rw [String.toList_ofList, readSubject_numeral short]

/-- The token of an account with a negative id, whose name has a quote, a backslash, a line end and
a character beyond U+FFFF, in the last second of the hour for which it is valid. -/
theorem smiling_account_comes_back :
    ∃ claims, verify {} 3599 (sign {} (claimsFor 0 (-7) "\"\\\n😀" 3600)) = .ok claims ∧
      claims.get? "name" = some (.str "\"\\\n😀") ∧ subjectOf claims = .ok (-7) := by
  obtain ⟨-, claims, verified, -, named, -, subject⟩ :=
    token_carries_account {} (-7) 0 3599 "\"\\\n😀" (by decide) (by decide) (by decide)
  exact ⟨claims, verified, named, subject⟩

end Token

end Tenancy
