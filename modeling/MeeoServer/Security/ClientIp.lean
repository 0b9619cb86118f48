/-
# The address of a client

`common/security/clientIp.ts`: the address that requests are counted by comes from the headers of a
proxy, if these hold an address, and else from the connection.  The patterns accept addresses of
four numbers up to 255, whatever zeros these begin with, and addresses of eight groups, besides the
two short ones `::1` and `::`.
-/
import MeeoServer.Text.JsString
import MeeoServer.Text.Patterns
import MeeoServer.Text.Pieces

namespace MeeoServer.Security.ClientIp

open JsString RegularExpression Text.Patterns

/-! ## The code -/

/-- `[a-b]` -/
def between (a b : Char) : RegularExpression Char := oneOf (range a b)

/-- `25[0-5]|2[0-4][0-9]|[01]?[0-9][0-9]?` -/
def octet : RegularExpression Char :=
  char '2' * (char '5' * between '0' '5') +
    (char '2' * (between '0' '4' * between '0' '9') +
      optional (oneOf ['0', '1']) * (between '0' '9' * optional (between '0' '9')))

/-- `^(?:(?:octet)\.){3}(?:octet)$` -/
def IPV4_REGEX : RegularExpression Char := separated octet '.' 3

/-- `[0-9a-fA-F]` -/
def hexDigits : List Char := range '0' '9' ++ range 'a' 'f' ++ range 'A' 'F'

/-- `[0-9a-fA-F]{1,4}` -/
def group : RegularExpression Char := Text.Patterns.between 1 3 (oneOf hexDigits)

/-- `^(?:(?:group):){7}(?:group)$|^::1$|^::$` -/
def IPV6_REGEX : RegularExpression Char :=
  separated group ':' 7 + (char ':' * (char ':' * char '1') + char ':' * char ':')

/-- Validates whether a string is a well-formed IPv4 or IPv6 address. -/
def isValidIp (ip : List Char) : Bool :=
  !ip.isEmpty && (IPV4_REGEX.rmatch (trim ip) || IPV6_REGEX.rmatch (trim ip) ||
    trim ip == "127.0.0.1".toList || trim ip == "::1".toList)

/-- The value of a header; a header that was sent more than once may be a list. -/
inductive Header where
  | text (value : List Char)
  | list (values : List (List Char))

/-- `typeof header === "string"` -/
def Header.text? : Option Header → Option (List Char)
  | some (.text value) => some value
  | _ => none

structure Request where
  /-- `cf-connecting-ip` -/
  cfIp : Option Header
  /-- `x-real-ip` -/
  realIp : Option Header
  /-- `x-forwarded-for` -/
  forwardedFor : Option Header
  /-- The address of the connection. -/
  ip : Option (List Char)

/-- `forwardedFor.split(",")[0]?.trim()` -/
def clientCandidate (forwardedFor : List Char) : List Char :=
  trim (forwardedFor.takeWhile fun c => c ≠ ',')

/-- The address of the connection, if it is one. -/
def socketIp (request : Request) : List Char :=
  match request.ip with
  | some ip => if isValidIp ip then ip else "127.0.0.1".toList
  | none => "127.0.0.1".toList

/-- `X-Forwarded-For`: the client is the first of the chain. -/
def forwardedIp (request : Request) : List Char :=
  match Header.text? request.forwardedFor with
  | some forwardedFor =>
    if isValidIp (clientCandidate forwardedFor) then clientCandidate forwardedFor
    else socketIp request
  | none => socketIp request

def realIp (request : Request) : List Char :=
  match Header.text? request.realIp with
  | some realIp => if isValidIp realIp then trim realIp else forwardedIp request
  | none => forwardedIp request

/-- Resolves the client IP address from proxy headers (Cloudflare, AWS ALB, Nginx) or socket. -/
def getClientIp (request : Request) : List Char :=
  match Header.text? request.cfIp with
  | some cfIp => if isValidIp cfIp then trim cfIp else realIp request
  | none => realIp request

/-! ## What an address is -/

/-- The number that the digits stand for. -/
def value (w : List Char) : ℕ := Nat.ofDigitChars 10 w 0

def IsDigit (c : Char) : Prop := 48 ≤ c.toNat ∧ c.toNat ≤ 57

/-- One to three digits for a number up to 255. -/
def IsOctet (w : List Char) : Prop :=
  1 ≤ w.length ∧ w.length ≤ 3 ∧ (∀ c ∈ w, IsDigit c) ∧ value w ≤ 255

def IsHexDigit (c : Char) : Prop :=
  IsDigit c ∨ 97 ≤ c.toNat ∧ c.toNat ≤ 102 ∨ 65 ≤ c.toNat ∧ c.toNat ≤ 70

/-- One to four hexadecimal digits. -/
def IsGroup (w : List Char) : Prop :=
  1 ≤ w.length ∧ w.length ≤ 4 ∧ ∀ c ∈ w, IsHexDigit c

def IsIpv4 (ip : List Char) : Prop :=
  ∃ octets : List (List Char), octets.length = 4 ∧ (∀ w ∈ octets, IsOctet w) ∧
    ip = ['.'].intercalate octets

def IsIpv6 (ip : List Char) : Prop :=
  (∃ groups : List (List Char), groups.length = 8 ∧ (∀ w ∈ groups, IsGroup w) ∧
    ip = [':'].intercalate groups) ∨ ip = "::1".toList ∨ ip = "::".toList

def IsIp (ip : List Char) : Prop := IsIpv4 ip ∨ IsIpv6 ip

/-! ## The patterns -/

section Patterns

variable {w : List Char}

lemma mem_class {a b : Char} (hb : b.toNat < 0xD800) :
    w ∈ (between a b).matches' ↔ ∃ c, (a.toNat ≤ c.toNat ∧ c.toNat ≤ b.toNat) ∧ w = [c] := by
  rw [between, mem_oneOf]
  simp only [mem_range hb]

lemma mem_digit : w ∈ (between '0' '9').matches' ↔ ∃ c, IsDigit c ∧ w = [c] :=
  mem_class (by decide)

lemma value_digit (a : Char) : value [a] = a.toNat - 48 := by
  simp [value, Nat.ofDigitChars]

lemma value_digits (a b : Char) : value [a, b] = (a.toNat - 48) * 10 + (b.toNat - 48) := by
  simp [value, Nat.ofDigitChars, Nat.mul_comm]

lemma value_three (a b c : Char) :
    value [a, b, c] = ((a.toNat - 48) * 10 + (b.toNat - 48)) * 10 + (c.toNat - 48) := by
  simp [value, Nat.ofDigitChars, Nat.mul_comm]

lemma eq_of_toNat {a b : Char} (h : a.toNat = b.toNat) : a = b := by
  rw [← Char.ofNat_toNat a, h, Char.ofNat_toNat]

/-- The pattern of a number, in its three cases. -/
lemma mem_octet_cases : w ∈ octet.matches' ↔
    (∃ c, (48 ≤ c.toNat ∧ c.toNat ≤ 53) ∧ w = ['2', '5', c]) ∨
    (∃ b c, (48 ≤ b.toNat ∧ b.toNat ≤ 52) ∧ IsDigit c ∧ w = ['2', b, c]) ∨
    ∃ x b y, (x = [] ∨ x = ['0'] ∨ x = ['1']) ∧ IsDigit b ∧ (y = [] ∨ ∃ c, IsDigit c ∧ y = [c]) ∧
      w = x ++ b :: y := by
  rw [octet, mem_add, mem_add]
  refine or_congr ?_ (or_congr ?_ ?_)
  · simp only [mem_mul, mem_char, mem_class (show ('5' : Char).toNat < 0xD800 by decide)]
    constructor
    · rintro ⟨_, rfl, _, ⟨_, rfl, _, ⟨c, hc, rfl⟩, rfl⟩, rfl⟩
      exact ⟨c, hc, rfl⟩
    · rintro ⟨c, hc, rfl⟩
      exact ⟨_, rfl, _, ⟨_, rfl, _, ⟨c, hc, rfl⟩, rfl⟩, rfl⟩
  · simp only [mem_mul, mem_char, mem_digit, mem_class (show ('4' : Char).toNat < 0xD800 by decide)]
    constructor
    · rintro ⟨_, rfl, _, ⟨_, ⟨b, hb, rfl⟩, _, ⟨c, hc, rfl⟩, rfl⟩, rfl⟩
      exact ⟨b, c, hb, hc, rfl⟩
    · rintro ⟨b, c, hb, hc, rfl⟩
      exact ⟨_, rfl, _, ⟨_, ⟨b, hb, rfl⟩, _, ⟨c, hc, rfl⟩, rfl⟩, rfl⟩
  · simp only [mem_mul, mem_optional, mem_oneOf, mem_digit]
    constructor
    · rintro ⟨x, hx, _, ⟨_, ⟨b, hb, rfl⟩, y, hy, rfl⟩, rfl⟩
      refine ⟨x, b, y, hx.imp_right ?_, hb, hy, rfl⟩
      rintro ⟨a, ha, rfl⟩
      simpa using ha
    · rintro ⟨x, b, y, hx, hb, hy, rfl⟩
      refine ⟨x, hx.imp_right ?_, _, ⟨_, ⟨b, hb, rfl⟩, y, hy, rfl⟩, rfl⟩
      rintro (rfl | rfl)
      · exact ⟨'0', by simp, rfl⟩
      · exact ⟨'1', by simp, rfl⟩

/-- A digit or two after a zero, a one or nothing: less than 200. -/
lemma isOctet_small {x y : List Char} {b : Char} (hx : x = [] ∨ x = ['0'] ∨ x = ['1'])
    (hb : IsDigit b) (hy : y = [] ∨ ∃ c, IsDigit c ∧ y = [c]) : IsOctet (x ++ b :: y) := by
  have hzero : IsDigit '0' := ⟨by decide, by decide⟩
  have hone : IsDigit '1' := ⟨by decide, by decide⟩
  have hvalue : ('0' : Char).toNat = 48 ∧ ('1' : Char).toNat = 49 := ⟨rfl, rfl⟩
  have hb' := hb
  unfold IsDigit at hb'
  rcases hx with rfl | rfl | rfl <;> rcases hy with rfl | ⟨c, hc, rfl⟩
  · exact ⟨by simp, by simp, by simpa using hb, by rw [List.nil_append, value_digit]; omega⟩
  · have hc' := hc
    unfold IsDigit at hc'
    exact ⟨by simp, by simp, by simpa using ⟨hb, hc⟩, by rw [List.nil_append, value_digits]; omega⟩
  · refine ⟨by simp, by simp, by simpa using ⟨hzero, hb⟩, ?_⟩
    rw [List.singleton_append, value_digits]
    omega
  · have hc' := hc
    unfold IsDigit at hc'
    refine ⟨by simp, by simp, by simpa using ⟨hzero, hb, hc⟩, ?_⟩
    rw [List.singleton_append, value_three]
    omega
  · refine ⟨by simp, by simp, by simpa using ⟨hone, hb⟩, ?_⟩
    rw [List.singleton_append, value_digits]
    omega
  · have hc' := hc
    unfold IsDigit at hc'
    refine ⟨by simp, by simp, by simpa using ⟨hone, hb, hc⟩, ?_⟩
    rw [List.singleton_append, value_three]
    omega

/-- The pattern accepts the numbers up to 255. -/
lemma mem_octet : w ∈ octet.matches' ↔ IsOctet w := by
  have htwo : ('2' : Char).toNat = 50 := rfl
  have hfive : ('5' : Char).toNat = 53 := rfl
  rw [mem_octet_cases]
  constructor
  · rintro (⟨c, hc, rfl⟩ | ⟨b, c, hb, hc, rfl⟩ | ⟨x, b, y, hx, hb, hy, rfl⟩)
    · refine ⟨by simp, by simp, ?_, ?_⟩
      · simp only [IsDigit, List.mem_cons, List.not_mem_nil, or_false, forall_eq_or_imp, forall_eq]
        omega
      · rw [value_three]
        omega
    · refine ⟨by simp, by simp, ?_, ?_⟩
      · unfold IsDigit at hc
        simp only [IsDigit, List.mem_cons, List.not_mem_nil, or_false, forall_eq_or_imp, forall_eq]
        omega
      · unfold IsDigit at hc
        rw [value_three]
        omega
    · exact isOctet_small hx hb hy
  · rintro ⟨hpos, hlength, hdigits, hvalue⟩
    match w, hpos, hlength, hdigits, hvalue with
    | [b], _, _, hdigits, _ =>
      exact .inr (.inr ⟨[], b, [], .inl rfl, hdigits b (by simp), .inl rfl, rfl⟩)
    | [b, c], _, _, hdigits, _ =>
      exact .inr (.inr ⟨[], b, [c], .inl rfl, hdigits b (by simp),
        .inr ⟨c, hdigits c (by simp), rfl⟩, rfl⟩)
    | [a, b, c], _, _, hdigits, hvalue =>
      have ha := hdigits a (by simp)
      have hb := hdigits b (by simp)
      have hc := hdigits c (by simp)
      rw [value_three] at hvalue
      have ha' := ha
      have hb' := hb
      have hc' := hc
      unfold IsDigit at ha' hb' hc'
      rcases Nat.lt_or_ge a.toNat 50 with hsmall | hlarge
      · -- the first digit is a zero or a one
        refine .inr (.inr ⟨[a], b, [c], ?_, hb, .inr ⟨c, hc, rfl⟩, rfl⟩)
        rcases Nat.lt_or_ge a.toNat 49 with hzero | hone
        · exact .inr (.inl (congrArg (fun x => [x]) (eq_of_toNat (b := '0') (by
            show a.toNat = 48
            omega))))
        · exact .inr (.inr (congrArg (fun x => [x]) (eq_of_toNat (b := '1') (by
            show a.toNat = 49
            omega))))
      · obtain rfl : a = '2' := eq_of_toNat (by omega)
        rcases Nat.lt_or_ge b.toNat 53 with hsmall | hlarge
        · exact .inr (.inl ⟨b, c, ⟨hb'.1, by omega⟩, hc, rfl⟩)
        · obtain rfl : b = '5' := eq_of_toNat (by omega)
          exact .inl ⟨c, ⟨hc'.1, by omega⟩, rfl⟩

lemma mem_ipv4 : IPV4_REGEX.rmatch w = true ↔ IsIpv4 w := by
  rw [rmatch_iff_matches', IPV4_REGEX, mem_separated]
  simp only [mem_octet, IsIpv4]

lemma mem_hexDigits {c : Char} : c ∈ hexDigits ↔ IsHexDigit c := by
  simp only [hexDigits, List.mem_append, mem_range (show ('9' : Char).toNat < 0xD800 by decide),
    mem_range (show ('f' : Char).toNat < 0xD800 by decide),
    mem_range (show ('F' : Char).toNat < 0xD800 by decide), or_assoc]
  rfl

lemma mem_group : w ∈ group.matches' ↔ IsGroup w := by
  rw [group, mem_between]
  simp only [mem_hexDigits, IsGroup]

lemma mem_ipv6 : IPV6_REGEX.rmatch w = true ↔ IsIpv6 w := by
  rw [rmatch_iff_matches', IPV6_REGEX, mem_add, mem_add, mem_separated]
  refine or_congr (by simp only [mem_group]) (or_congr ?_ ?_)
  · simp only [mem_mul, mem_char]
    constructor
    · rintro ⟨_, rfl, _, ⟨_, rfl, _, rfl, rfl⟩, rfl⟩
      rfl
    · rintro rfl
      exact ⟨_, rfl, _, ⟨_, rfl, _, rfl, rfl⟩, rfl⟩
  · simp only [mem_mul, mem_char]
    constructor
    · rintro ⟨_, rfl, _, rfl, rfl⟩
      rfl
    · rintro rfl
      exact ⟨_, rfl, _, rfl, rfl⟩

/-! ## What is accepted -/

lemma localhost_isIp : IsIp "127.0.0.1".toList := .inl (mem_ipv4.mp (by decide +kernel))

/-- The empty text is no address. -/
lemma not_isIp_nil : ¬IsIp [] := by
  rintro (h | h)
  · exact absurd (mem_ipv4.mpr h) (by decide +kernel)
  · exact absurd (mem_ipv6.mpr h) (by decide +kernel)

/-- What is accepted is an address with blanks around it, and all of these are. -/
theorem isValidIp_iff : isValidIp w = true ↔ IsIp (trim w) := by
  simp only [isValidIp, Bool.and_eq_true, Bool.or_eq_true, mem_ipv4, mem_ipv6, beq_iff_eq,
    Bool.not_eq_true', List.isEmpty_eq_false_iff]
  constructor
  · rintro ⟨-, ((h | h) | h) | h⟩
    · exact .inl h
    · exact .inr h
    · exact h ▸ localhost_isIp
    · exact .inr (.inr (.inl h))
  · intro h
    refine ⟨?_, .inl (.inl h)⟩
    rintro rfl
    exact not_isIp_nil h

lemma trim_trim : trim (trim w) = trim w := Text.trimEnds_trimEnds

end Patterns

/-! ## The address of a request -/

/-- Where an address may be found, in the order in which it is looked for. -/
def Request.candidates (request : Request) : List (List Char) :=
  ((Header.text? request.cfIp).map trim).toList ++
    ((Header.text? request.realIp).map trim).toList ++
    ((Header.text? request.forwardedFor).map clientCandidate).toList ++ request.ip.toList

/-- The first valid one of some candidates. -/
def firstValid (candidates : List (List Char)) : List Char :=
  (candidates.find? isValidIp).getD "127.0.0.1".toList

lemma isValidIp_trim (w : List Char) : isValidIp (trim w) = isValidIp w := by
  rw [Bool.eq_iff_iff, isValidIp_iff, isValidIp_iff, trim_trim]

/-- One candidate more. -/
lemma firstValid_toList_append {f : List Char → List Char} (header : Option (List Char))
    (candidates : List (List Char)) :
    firstValid ((header.map f).toList ++ candidates) =
      match header with
      | some w => if isValidIp (f w) then f w else firstValid candidates
      | none => firstValid candidates := by
  cases header with
  | none => rfl
  | some w =>
    cases hw : isValidIp (f w) with
    | true => simp [firstValid, hw]
    | false => simp [firstValid, hw]

/-- The address is looked for in this order. -/
lemma getClientIp_eq (request : Request) : getClientIp request = firstValid request.candidates := by
  have hsocket : socketIp request = firstValid (request.ip.toList ++ []) := by
    have hip : request.ip.toList = (request.ip.map fun w => w).toList := by rw [Option.map_id']
    rw [hip, firstValid_toList_append]
    rfl
  have hforwarded : forwardedIp request = firstValid
      (((Header.text? request.forwardedFor).map clientCandidate).toList ++
        (request.ip.toList ++ [])) := by
    rw [firstValid_toList_append, ← hsocket]
    rfl
  have hreal : realIp request = firstValid (((Header.text? request.realIp).map trim).toList ++
      (((Header.text? request.forwardedFor).map clientCandidate).toList ++
        (request.ip.toList ++ []))) := by
    rw [firstValid_toList_append, ← hforwarded]
    simp only [isValidIp_trim]
    rfl
  rw [Request.candidates, List.append_assoc, List.append_assoc, firstValid_toList_append]
  rw [List.append_nil] at hreal
  rw [← hreal]
  simp only [isValidIp_trim]
  rfl

/-- **The address of a request.**  It is an address, up to blanks around it: the first candidate
that is one or, if none is, that of the local host. -/
theorem getClientIp_first (request : Request) :
    IsIp (trim (getClientIp request)) ∧
      (∀ before c after, request.candidates = before ++ c :: after → IsIp (trim c) →
        (∀ b ∈ before, ¬IsIp (trim b)) → getClientIp request = c) ∧
      ((∀ c ∈ request.candidates, ¬IsIp (trim c)) → getClientIp request = "127.0.0.1".toList) := by
  rw [getClientIp_eq]
  refine ⟨?_, fun before c after hcandidates hc hbefore => ?_, fun hnone => ?_⟩
  · cases hfind : request.candidates.find? isValidIp with
    | none =>
      rw [firstValid, hfind]
      exact localhost_isIp
    | some c =>
      rw [firstValid, hfind]
      exact isValidIp_iff.mp (List.find?_some hfind)
  · have hskip : before.find? isValidIp = none :=
      List.find?_eq_none.mpr fun b hb hvalid => hbefore b hb (isValidIp_iff.mp hvalid)
    rw [firstValid, hcandidates, List.find?_append, hskip, Option.none_or,
      List.find?_cons_of_pos (isValidIp_iff.mpr hc)]
    rfl
  · have hskip : request.candidates.find? isValidIp = none :=
      List.find?_eq_none.mpr fun c hc hvalid => hnone c hc (isValidIp_iff.mp hvalid)
    rw [firstValid, hskip]
    rfl

end MeeoServer.Security.ClientIp
