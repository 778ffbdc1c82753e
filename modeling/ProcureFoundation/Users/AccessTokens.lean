import Mathlib
import ProcureFoundation.Users.Permissions
import ProcureFoundation.Foundation.AsciiText
import ProcureFoundation.Foundation.PythonText
import ProcureFoundation.Foundation.SeparatedWords
import ProcureFoundation.Foundation.Outcomes

/-!
# Access tokens

An access token says who has signed in, to which organisation and with which role, and until when. A
request is taken to be that of the claims of its token while the token has not expired; no table is
read for it.
-/

namespace ProcureFoundation.Users

open Text Outcome

structure Settings where
  accessTokenExpireMinutes : ℕ
  refreshTokenExpireDays : ℕ
  allowSelfRegistration : Bool

inductive TokenPayload where
  | access (sub : String) (activeOrgId : ℕ) (role : String) (iat exp : ℕ)
  | refresh (sub familyId : String) (iat exp : ℕ)
deriving DecidableEq

def TokenPayload.iat : TokenPayload → ℕ
  | access _ _ _ iat _ => iat
  | refresh _ _ iat _ => iat

def TokenPayload.exp : TokenPayload → ℕ
  | access _ _ _ _ exp => exp
  | refresh _ _ _ exp => exp

inductive TokenFault where
  | expiredSignature
  | invalidToken

/-- The signing of payloads under the secret key, and the payload that a text has a valid signature
of. -/
structure Jwt where
  encode : TokenPayload → String
  signed : String → Option TokenPayload
  signed_encode : ∀ payload, signed (encode payload) = some payload
  strip_encode : ∀ payload, strip (encode payload) = encode payload

/-- The moments are seconds with their fractions. -/
def Jwt.decode (jwt : Jwt) (now : ℚ≥0) (token : String) : Except TokenFault TokenPayload :=
  match jwt.signed token with
  | none => .error .invalidToken
  | some payload =>
    if now < payload.iat then .error .invalidToken
    else if (payload.exp : ℚ≥0) ≤ now then .error .expiredSignature
    else .ok payload

structure DecodedClaims extends AccessTokenClaims where
  issuedAt : ℕ
  expiresAt : ℕ

def accessPayload (settings : Settings) (claims : AccessTokenClaims) (now : ℚ≥0) : TokenPayload :=
  .access claims.userId.repr claims.activeOrgId claims.role ⌊now⌋₊
    (⌊now⌋₊ + settings.accessTokenExpireMinutes * 60)

def refreshPayload (settings : Settings) (userId : ℕ) (familyId : String) (now : ℚ≥0) :
    TokenPayload :=
  .refresh userId.repr familyId ⌊now⌋₊ (⌊now⌋₊ + settings.refreshTokenExpireDays * 86400)

def decodeAccessToken (jwt : Jwt) (now : ℚ≥0) (token : String) : Except Refusal DecodedClaims :=
  match jwt.decode now token with
  | .error .expiredSignature => .error (.authentication "Access token has expired")
  | .error .invalidToken => .error (.authentication "Invalid access token")
  | .ok (.refresh ..) => .error (.authentication "Wrong token type")
  | .ok (.access sub activeOrgId role iat exp) =>
    match sub.toNat? with
    | none => .error (.valueError ("invalid literal for int() with base 10: '" ++ sub ++ "'"))
    | some userId => .ok ⟨⟨userId, activeOrgId, role⟩, iat, exp⟩

def bearer : List Char := "Bearer ".toList

/-- The token of an authorization header. -/
def bearerToken (authorization : Option String) : Option String :=
  authorization.bind fun text => if bearer <+: text.toList then
    some (strip (String.ofList (text.toList.drop 7))) else none

def getCurrentClaims (jwt : Jwt) (now : ℚ≥0) (authorization : Option String) :
    Except Refusal DecodedClaims :=
  match bearerToken authorization with
  | none => .error (.authentication "Missing or malformed Authorization header")
  | some token => decodeAccessToken jwt now token

section Rules

variable {jwt : Jwt} {settings : Settings} {now later : ℚ≥0} {token : String}
  {authorization : Option String} {claims : AccessTokenClaims} {decoded : DecodedClaims}

theorem Jwt.decode_eq_ok {payload : TokenPayload} : jwt.decode now token = .ok payload ↔
    jwt.signed token = some payload ∧ (payload.iat : ℚ≥0) ≤ now ∧ now < payload.exp := by
  unfold Jwt.decode
  cases jwt.signed token with
  | none => exact iff_of_false (fun h => nomatch h) fun h => nomatch h.1
  | some read =>
    dsimp only
    split
    · rename_i hEarly
      refine iff_of_false (fun h => nomatch h) ?_
      rintro ⟨hRead, hIat, -⟩
      rw [Option.some.inj hRead] at hEarly
      exact hIat.not_gt hEarly
    · rename_i hIat
      split
      · rename_i hExp
        refine iff_of_false (fun h => nomatch h) ?_
        rintro ⟨hRead, -, hLate⟩
        rw [Option.some.inj hRead] at hExp
        exact hExp.not_gt hLate
      · rename_i hExp
        constructor
        · intro h
          obtain rfl := Except.ok.inj h
          exact ⟨rfl, not_lt.mp hIat, not_le.mp hExp⟩
        · rintro ⟨hRead, -, -⟩
          exact congrArg _ (Option.some.inj hRead)

/-- The payload that the claims were read from. -/
def DecodedClaims.payload (decoded : DecodedClaims) (sub : String) : TokenPayload :=
  .access sub decoded.activeOrgId decoded.role decoded.issuedAt decoded.expiresAt

theorem decodeAccessToken_eq_ok : decodeAccessToken jwt now token = .ok decoded ↔
    ∃ sub, sub.toNat? = some decoded.userId ∧ jwt.signed token = some (decoded.payload sub) ∧
      (decoded.issuedAt : ℚ≥0) ≤ now ∧ now < decoded.expiresAt := by
  unfold decodeAccessToken
  constructor
  · intro h
    split at h
    · exact nomatch h
    · exact nomatch h
    · exact nomatch h
    · rename_i sub activeOrgId role iat exp hDecode
      cases hSub : sub.toNat? with
      | none =>
        rw [hSub] at h
        exact nomatch h
      | some userId =>
        rw [hSub] at h
        obtain rfl := Except.ok.inj h
        exact ⟨sub, hSub, Jwt.decode_eq_ok.mp hDecode⟩
  · rintro ⟨sub, hSub, hSigned⟩
    have hDecode : jwt.decode now token = .ok (decoded.payload sub) := Jwt.decode_eq_ok.mpr hSigned
    rw [hDecode]
    dsimp only [DecodedClaims.payload]
    rw [hSub]

theorem getCurrentClaims_eq_ok : getCurrentClaims jwt now authorization = .ok decoded ↔
    ∃ token, bearerToken authorization = some token ∧ decodeAccessToken jwt now token =
      .ok decoded := by
  unfold getCurrentClaims
  cases bearerToken authorization with
  | none => exact iff_of_false (fun h => nomatch h) fun ⟨_, h, _⟩ => nomatch h
  | some token =>
    constructor
    · intro h
      exact ⟨token, rfl, h⟩
    · rintro ⟨other, hOther, h⟩
      rwa [Option.some.inj hOther]

theorem bearerToken_bearer (hToken : strip token = token) :
    bearerToken (some ("Bearer " ++ token)) = some token := by
  have hText : ("Bearer " ++ token).toList = bearer ++ token.toList := String.toList_append
  have hDrop : (bearer ++ token.toList).drop 7 = token.toList := List.drop_left' rfl
  rw [bearerToken, Option.bind_some, hText, if_pos (List.prefix_append _ _), hDrop,
    String.ofList_toList, hToken]

/-- What the claims of a token say that was made at a moment. -/
def claimsAt (settings : Settings) (claims : AccessTokenClaims) (moment : ℚ≥0) : DecodedClaims :=
  ⟨claims, ⌊moment⌋₊, ⌊moment⌋₊ + settings.accessTokenExpireMinutes * 60⟩

theorem sub_accessPayload {sub : String}
    (h : accessPayload settings claims now = decoded.payload sub)
    (hSub : sub.toNat? = some decoded.userId) : decoded = claimsAt settings claims now := by
  obtain ⟨⟨userId, activeOrgId, role⟩, issuedAt, expiresAt⟩ := decoded
  obtain ⟨rfl, rfl, rfl, rfl, rfl⟩ := TokenPayload.access.inj h
  rw [Nat.toNat?_repr] at hSub
  obtain rfl := Option.some.inj hSub
  rfl

/-- A token is taken from the second that it is made in until it expires. -/
theorem getCurrentClaims_of_signed (hToken : bearerToken authorization = some token)
    (hSigned : jwt.signed token = some (accessPayload settings claims now)) (hMade : now ≤ later) :
    getCurrentClaims jwt later authorization = .ok (claimsAt settings claims now) ↔
      later < (⌊now⌋₊ + settings.accessTokenExpireMinutes * 60 : ℕ) := by
  rw [getCurrentClaims_eq_ok]
  constructor
  · rintro ⟨other, -, hDecode⟩
    obtain ⟨-, -, -, -, hExpires⟩ := decodeAccessToken_eq_ok.mp hDecode
    exact hExpires
  · intro hExpires
    refine ⟨token, hToken,
      decodeAccessToken_eq_ok.mpr ⟨_, Nat.toNat?_repr _, hSigned, ?_, hExpires⟩⟩
    exact (Nat.floor_le zero_le).trans hMade

/-- A client that sends its token back is taken until the token expires. -/
theorem getCurrentClaims_made (hMade : now ≤ later) :
    getCurrentClaims jwt later (some ("Bearer " ++ jwt.encode (accessPayload settings claims now))) =
      .ok (claimsAt settings claims now) ↔
        later < (⌊now⌋₊ + settings.accessTokenExpireMinutes * 60 : ℕ) :=
  getCurrentClaims_of_signed (bearerToken_bearer (jwt.strip_encode _)) (jwt.signed_encode _) hMade

end Rules

namespace PlainText

/-- The fields of a payload as numbers, with the length of the first of two texts before them. -/
def numbers : TokenPayload → List ℕ
  | .access sub activeOrgId role iat exp =>
    0 :: activeOrgId :: iat :: exp :: sub.toList.length ::
      (sub.toList ++ role.toList).map Char.toNat
  | .refresh sub familyId iat exp =>
    1 :: iat :: exp :: sub.toList.length :: (sub.toList ++ familyId.toList).map Char.toNat

def text (codes : List ℕ) : String := String.ofList (codes.map Char.ofNat)

def payload : List ℕ → Option TokenPayload
  | 0 :: activeOrgId :: iat :: exp :: length :: codes =>
    some (.access (text (codes.take length)) activeOrgId (text (codes.drop length)) iat exp)
  | 1 :: iat :: exp :: length :: codes =>
    some (.refresh (text (codes.take length)) (text (codes.drop length)) iat exp)
  | _ => none

theorem text_toNat (chars : List Char) : text (chars.map Char.toNat) = String.ofList chars := by
  rw [text, List.map_map]
  exact congrArg String.ofList
    ((List.map_congr_left fun c _ => Char.ofNat_toNat c).trans (List.map_id chars))

theorem take_toNat (first second : String) :
    text (((first.toList ++ second.toList).map Char.toNat).take first.toList.length) = first := by
  rw [← List.map_take, List.take_left, text_toNat, String.ofList_toList]

theorem drop_toNat (first second : String) :
    text (((first.toList ++ second.toList).map Char.toNat).drop first.toList.length) = second := by
  rw [← List.map_drop, List.drop_left, text_toNat, String.ofList_toList]

theorem payload_numbers (signed : TokenPayload) : payload (numbers signed) = some signed := by
  cases signed with
  | access sub activeOrgId role iat exp =>
    rw [numbers, payload, take_toNat, drop_toNat]
  | refresh sub familyId iat exp =>
    rw [numbers, payload, take_toNat, drop_toNat]

def chars (codes : List ℕ) : List Char := ['.'].intercalate (codes.map fun n => n.repr.toList)

theorem digit_of_repr {n : ℕ} {c : Char} (h : c ∈ n.repr.toList) : c.isDigit = true := by
  rw [Nat.repr, String.toList_ofList] at h
  exact Nat.isDigit_of_mem_toDigits (by decide) (by decide) h

theorem of_isDigit {c : Char} (h : c.isDigit = true) : c ≠ '.' ∧ isSpace c = false := by
  have hCode : c.toNat < 128 := by
    have hRange := Char.isDigit_iff_toNat.mp h
    exact hRange.2.trans_lt (by decide)
  exact of_ascii (P := fun c => c.isDigit = true → c ≠ '.' ∧ isSpace c = false) (by decide) hCode h

theorem mapM_repr (codes : List ℕ) :
    (codes.map fun n => n.repr.toList).mapM (fun digits => (String.ofList digits).toNat?) =
      some codes := by
  induction codes with
  | nil => rfl
  | cons n codes ih =>
    rw [List.map_cons, List.mapM_cons, ih, String.ofList_toList, Nat.toNat?_repr]
    rfl

theorem mapM_chars {codes : List ℕ} (hCodes : codes ≠ []) :
    ((chars codes).splitOn '.').mapM (fun digits => (String.ofList digits).toNat?) =
      some codes := by
  rw [chars, List.splitOn_intercalate, mapM_repr]
  · intro digits hDigits hDot
    obtain ⟨n, -, rfl⟩ := List.mem_map.mp hDigits
    exact (of_isDigit (digit_of_repr hDot)).1 rfl
  · rwa [ne_eq, List.map_eq_nil_iff]

theorem not_space {codes : List ℕ} {c : Char} (h : c ∈ chars codes) : isSpace c = false := by
  obtain rfl | ⟨digits, hDigits, hMem⟩ := mem_intercalate_singleton h
  · decide
  · obtain ⟨n, -, rfl⟩ := List.mem_map.mp hDigits
    exact (of_isDigit (digit_of_repr hMem)).2

theorem strip_chars (codes : List ℕ) :
    strip (String.ofList (chars codes)) = String.ofList (chars codes) := by
  have hFront : (chars codes).dropWhile isSpace = chars codes := by
    refine List.dropWhile_eq_self_iff.mpr fun hLength hSpace => ?_
    rw [not_space (List.getElem_mem _)] at hSpace
    exact Bool.false_ne_true hSpace
  have hBack : (chars codes).rdropWhile isSpace = chars codes := by
    refine List.rdropWhile_eq_self_iff.mpr fun hNonempty hSpace => ?_
    rw [not_space (List.getLast_mem _)] at hSpace
    exact Bool.false_ne_true hSpace
  rw [strip, stripChars, String.toList_ofList, hFront, hBack]

/-- The payload itself as a text of numbers. -/
def jwt : Jwt where
  encode signed := String.ofList (chars (numbers signed))
  signed token :=
    ((token.toList.splitOn '.').mapM fun digits => (String.ofList digits).toNat?).bind payload
  signed_encode signed := by
    have hNumbers : numbers signed ≠ [] := by
      cases signed with
      | access sub activeOrgId role iat exp => exact List.cons_ne_nil _ _
      | refresh sub familyId iat exp => exact List.cons_ne_nil _ _
    rw [String.toList_ofList, mapM_chars hNumbers, Option.bind_some, payload_numbers]
  strip_encode signed := strip_chars _

end PlainText

end ProcureFoundation.Users
