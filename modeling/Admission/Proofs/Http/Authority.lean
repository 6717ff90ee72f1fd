import Admission.Http.Header
import Admission.Http.Uri
import Admission.Proofs.Results
import Mathlib.Data.List.TakeWhile
import Mathlib.Tactic.ByContra
import Mathlib.Tactic.Lemma

/-!
# Authorities

An authority which names no user is a host and an optional port; the host is a name or a literal in
brackets. Where such an authority is accepted in a URI it consists of characters which can be shown,
so that it can be written as the value of a header as well, and the URI's host is the host of the
authority.
-/

namespace Admission.Http

/-- The characters which hold the parts of a URI apart. -/
def isDelimiter (c : Char) : Bool := ":/?#[]@".toList.contains c

/-- A text which is all in one part of a URI. -/
def IsPlain (text : List Char) : Prop := ∀ c ∈ text, isDelimiter c = false

instance : DecidablePred IsPlain := List.decidableBAll (isDelimiter · = false)

/-- A host: a name, such as an IPv4 address is as well, or what is not a name and so stands in
brackets, such as an IPv6 address. -/
inductive Host where
  | name (text : List Char)
  | literal (text : List Char)

namespace Host

/-- The host as it is written. -/
def text : Host → List Char
  | name text => text
  | literal text => '[' :: text ++ [']']

/-- Colons may be in a literal only. -/
def WellFormed : Host → Prop
  | name text => IsPlain text
  | literal text => ∀ c ∈ text, c = ':' ∨ isDelimiter c = false

/-- A colon in a host stands in a literal. -/
lemma colon_mem_text {host : Host} (formed : host.WellFormed) :
    ':' ∈ host.text ↔ ∃ inner, host = literal inner ∧ ':' ∈ inner := by
  cases host with
  | name text =>
    constructor
    · intro mem
      exact absurd (formed _ mem) (by decide)
    · rintro ⟨inner, ⟨⟩, -⟩
  | literal text => simp [Host.text]

/-- Before its first colon there is the whole of a host if and only if it is no literal which has
one. -/
lemma takeWhile_text_eq_iff {host : Host} (formed : host.WellFormed) :
    host.text.takeWhile (· ≠ ':') = host.text ↔
      ∀ inner, host = literal inner → ':' ∉ inner := by
  have whole : host.text.takeWhile (· ≠ ':') = host.text ↔ ':' ∉ host.text := by
    rw [List.takeWhile_eq_self_iff]
    constructor
    · intro plain mem
      exact absurd (plain _ mem) (by decide)
    · intro absent c mem
      rw [decide_eq_true_eq]
      rintro rfl
      exact absent mem
  rw [whole, colon_mem_text formed]
  push Not
  rfl

end Host

/-- An authority without user information. -/
structure Address where
  host : Host
  port : Option (List Char)

namespace Address

/-- The part of an address behind the host. -/
def portText (address : Address) : List Char :=
  match address.port with
  | none => []
  | some port => ':' :: port

/-- The address as it is written. -/
def text (address : Address) : List Char := address.host.text ++ address.portText

/-- The URI which consists of the address and an empty path. -/
def url (address : Address) : String := "http://" ++ String.ofList (address.text ++ ['/'])

structure WellFormed (address : Address) : Prop where
  host : address.host.WellFormed
  port : ∀ port ∈ address.port, IsPlain port

end Address

section Bytes

/-- A character which can be shown and is no space. -/
def Visible (c : Char) : Prop := 33 ≤ c.toNat ∧ c.toNat < 127

instance (c : Char) : Decidable (Visible c) := inferInstanceAs (Decidable (_ ∧ _))

variable {text : List Char} {c : Char}

lemma toList_loop (bytes : ByteArray) (index : Nat) (read : List UInt8) :
    ByteArray.toList.loop bytes index read = read.reverse ++ bytes.data.toList.drop index := by
  fun_induction ByteArray.toList.loop bytes index read with
  | case1 index read inside ih =>
    have bounded : index < bytes.data.toList.length := by simpa using inside
    rw [ih, List.drop_eq_getElem_cons bounded]
    simp [ByteArray.get!, inside]
  | case2 index read outside =>
    rw [List.drop_eq_nil_of_le (by simpa using Nat.le_of_not_lt outside), List.append_nil]

lemma utf8EncodeChar_of_visible (visible : Visible c) :
    (String.utf8EncodeChar c).map UInt8.toNat = [c.toNat] := by
  have code : c.val.toNat < 127 := visible.2
  have single : c.utf8Size = 1 := by
    rw [Char.utf8Size_eq_one_iff, UInt32.le_iff_toNat_le]
    exact Nat.le_of_lt_succ (Nat.lt_succ_of_lt code)
  rw [String.utf8EncodeChar_eq_singleton single]
  simp only [List.map_cons, List.map_nil, List.cons.injEq, and_true]
  exact Nat.mod_eq_of_lt (by omega)

/-- The bytes of a text of visible characters are their codes. -/
lemma bytesOf_ofList (visible : ∀ c ∈ text, Visible c) :
    bytesOf (String.ofList text) = text.map Char.toNat := by
  have encoded : (String.ofList text).toUTF8.toList = text.flatMap String.utf8EncodeChar := by
    rw [String.toUTF8_eq_toByteArray, String.toByteArray_ofList, List.utf8Encode,
      ByteArray.toList, toList_loop]
    simp
  unfold bytesOf
  rw [encoded]
  clear encoded
  induction text with
  | nil => rfl
  | cons c rest ih =>
    have shown := utf8EncodeChar_of_visible (visible c List.mem_cons_self)
    rw [List.flatMap_cons, List.map_append, shown,
      ih fun d mem => visible d (List.mem_cons_of_mem c mem)]
    rfl

lemma parseHeaderValue_ofList (visible : ∀ c ∈ text, Visible c) :
    parseHeaderValue (bytesOf (String.ofList text)) = .ok (bytesOf (String.ofList text)) := by
  have allowed : (text.map Char.toNat).all isValueByte = true := by
    rw [List.all_eq_true]
    intro code mem
    obtain ⟨c, given, rfl⟩ := List.mem_map.mp mem
    have := visible c given
    unfold Visible at this
    simp only [isValueByte, Bool.or_eq_true, Bool.and_eq_true, decide_eq_true_eq, ne_eq,
      decide_not, Bool.not_eq_true', decide_eq_false_iff_not]
    omega
  unfold parseHeaderValue
  rw [bytesOf_ofList visible, if_pos allowed]

lemma valueText?_ofList (visible : ∀ c ∈ text, Visible c) :
    valueText? (bytesOf (String.ofList text)) = some (String.ofList text) := by
  have readable : (text.map Char.toNat).all isReadableByte = true := by
    rw [List.all_eq_true]
    intro code mem
    obtain ⟨c, given, rfl⟩ := List.mem_map.mp mem
    have := visible c given
    unfold Visible at this
    simp only [isReadableByte, Bool.or_eq_true, Bool.and_eq_true, decide_eq_true_eq]
    omega
  unfold valueText?
  rw [bytesOf_ofList visible, if_pos readable, List.map_map]
  simp [Function.comp_def]

end Bytes

namespace Uri

section Scanning

variable {c : Char} {scan next : Scan}

lemma visible_of_between {low high : Char} (between : isBetween low high c = true)
    (low_visible : 33 ≤ low.toNat) (high_visible : high.toNat < 127) : Visible c := by
  simp only [isBetween, Bool.and_eq_true, decide_eq_true_eq] at between
  exact ⟨Nat.le_trans low_visible between.1, Nat.lt_of_le_of_lt between.2 high_visible⟩

lemma visible_of_authorityChar (allowed : isAuthorityChar c = true) : Visible c := by
  simp only [isAuthorityChar, isLetterOrDigit, Bool.or_eq_true] at allowed
  rcases allowed with ((lower | upper) | digit) | mark
  · exact visible_of_between lower (by decide) (by decide)
  · exact visible_of_between upper (by decide) (by decide)
  · exact visible_of_between digit (by decide) (by decide)
  · have marks : "!$&'()*+,-.:;=@[]_~".toList.all (fun c => Visible c) = true := by
      decide
    exact of_decide_eq_true (List.all_eq_true.mp marks c (List.contains_iff_mem.mp mark))

/-- Only visible characters are accepted in an authority. -/
lemma visible_of_next (accepted : scan.next c = .ok next) : Visible c := by
  by_contra hidden
  have differs (other : Char) (visible : Visible other) : c ≠ other := fun same =>
    hidden (same ▸ visible)
  rw [Scan.next, if_neg (differs ':' (by decide)), if_neg (differs '[' (by decide)),
    if_neg (differs ']' (by decide)), if_neg (differs '@' (by decide)),
    if_neg (differs '%' (by decide)),
    if_neg fun allowed => hidden (visible_of_authorityChar allowed)] at accepted
  cases accepted

lemma visible_of_scan {text : List Char} (accepted : text.foldlM Scan.next scan = .ok next) :
    ∀ c ∈ text, Visible c := by
  induction text generalizing scan with
  | nil => exact fun _ mem => nomatch mem
  | cons c rest ih =>
    rw [List.foldlM_cons] at accepted
    cases stepped : scan.next c with
    | error error =>
      rw [stepped] at accepted
      cases accepted
    | ok between =>
      rw [stepped] at accepted
      exact List.forall_mem_cons.mpr ⟨visible_of_next stepped, ih accepted⟩

end Scanning

lemma not_long_of_parse {text : String} {uri : Uri} (accepted : parse text = .ok uri) :
    ¬maxLength < text.utf8ByteSize := by
  intro long
  rw [parse, if_pos long] at accepted
  cases accepted

end Uri

namespace Address

open Uri (hostOf dropUser endsAuthority)

variable {address : Address} {c : Char}

lemma mem_portText (formed : address.WellFormed) (mem : c ∈ address.portText) :
    c = ':' ∨ isDelimiter c = false := by
  unfold portText at mem
  cases given : address.port with
  | none =>
    rw [given] at mem
    cases mem
  | some port =>
    rw [given] at mem
    rcases List.mem_cons.mp mem with colon | inside
    · exact .inl colon
    · exact .inr (formed.port port given c inside)

lemma mem_text_cases (formed : address.WellFormed) (mem : c ∈ address.text) :
    isDelimiter c = false ∨ c = ':' ∨ c = '[' ∨ c = ']' := by
  have host_formed := formed.host
  rcases List.mem_append.mp mem with of_host | of_port
  · cases named : address.host with
    | name text =>
      rw [named] at of_host host_formed
      exact .inl (host_formed c of_host)
    | literal text =>
      rw [named] at of_host host_formed
      simp only [Host.text, List.cons_append, List.mem_cons, List.mem_append,
        List.not_mem_nil, or_false] at of_host
      rcases of_host with bracket | inside | bracket
      · exact .inr (.inr (.inl bracket))
      · rcases host_formed c inside with colon | plain
        · exact .inr (.inl colon)
        · exact .inl plain
      · exact .inr (.inr (.inr bracket))
  · rcases mem_portText formed of_port with colon | plain
    · exact .inr (.inl colon)
    · exact .inl plain

/-- The delimiters which an address may hold are colons and brackets. -/
lemma not_mem_text (formed : address.WellFormed) (delimiter : isDelimiter c = true)
    (other : c ≠ ':' ∧ c ≠ '[' ∧ c ≠ ']') : c ∉ address.text := by
  intro mem
  rcases mem_text_cases formed mem with plain | colon | opens | closes
  · rw [plain] at delimiter
    cases delimiter
  · exact other.1 colon
  · exact other.2.1 opens
  · exact other.2.2 closes

lemma endsAuthority_eq_false (formed : address.WellFormed) (mem : c ∈ address.text) :
    endsAuthority c = false := by
  have differs (other : Char) (delimiter : isDelimiter other = true)
      (different : other ≠ ':' ∧ other ≠ '[' ∧ other ≠ ']') : c ≠ other := fun same =>
    not_mem_text formed delimiter different (same ▸ mem)
  simp [endsAuthority, differs '/' (by decide) (by decide), differs '?' (by decide) (by decide),
    differs '#' (by decide) (by decide)]

lemma dropUser_text (formed : address.WellFormed) : dropUser address.text = address.text := by
  have nobody : '@' ∉ address.text := not_mem_text formed (by decide) (by decide)
  have all : ∀ c ∈ address.text.reverse, decide (c ≠ '@') = true := by
    intro c mem
    rw [decide_eq_true_eq]
    rintro rfl
    exact nobody (List.mem_reverse.mp mem)
  unfold dropUser
  rw [List.takeWhile_eq_self_iff.mpr all, List.reverse_reverse]

lemma takeWhile_append_of_ends {front back : List Char} {continues : Char → Bool}
    (ends : ∀ c ∈ back.head?, continues c = false) :
    (front ++ back).takeWhile continues = front.takeWhile continues := by
  induction front with
  | nil =>
    cases back with
    | nil => rfl
    | cons c rest => simp [ends c rfl]
  | cons c front ih => rw [List.cons_append, List.takeWhile_cons, List.takeWhile_cons, ih]

/-- A list up to the first place where something ends, given that it ends nowhere before. -/
lemma takeWhile_append_eq {front back : List Char} {continues : Char → Bool}
    (inside : ∀ c ∈ front, continues c = true)
    (ends : ∀ c ∈ back.head?, continues c = false) :
    (front ++ back).takeWhile continues = front := by
  rw [takeWhile_append_of_ends ends, List.takeWhile_eq_self_iff.mpr inside]

lemma portText_head (address : Address) : ∀ c ∈ address.portText.head?, c = ':' := by
  obtain ⟨host, port⟩ := address
  cases port with
  | none => exact fun _ mem => nomatch mem
  | some digits =>
    intro c mem
    exact (Option.some.inj mem).symm

lemma bracket_not_mem_text {name : List Char} (formed : address.WellFormed)
    (named : address.host = .name name) : '[' ∉ address.text := by
  have host_formed := formed.host
  rw [named] at host_formed
  intro mem
  rcases List.mem_append.mp mem with of_host | of_port
  · rw [named] at of_host
    exact absurd (host_formed _ of_host) (by decide)
  · rcases mem_portText formed of_port with colon | plain
    · exact absurd colon (by decide)
    · exact absurd plain (by decide)

/-- Up to its first colon, an address is no more than its host. -/
lemma takeWhile_text (address : Address) :
    address.text.takeWhile (· ≠ ':') = address.host.text.takeWhile (· ≠ ':') :=
  takeWhile_append_of_ends fun c mem => by simp [portText_head address c mem]

/-- The host which a URI finds in an address is the host of the address. -/
lemma hostOf_text (formed : address.WellFormed) : hostOf address.text = address.host.text := by
  have host_formed := formed.host
  dsimp only [hostOf]
  rw [dropUser_text formed]
  cases named : address.host with
  | name name =>
    have first : address.text.takeWhile (· ≠ ':') = address.host.text := by
      rw [takeWhile_text, Host.takeWhile_text_eq_iff host_formed, named]
      exact fun _ literal => nomatch literal
    rw [named] at first
    split
    · rename_i rest bracketed
      exact absurd (bracketed ▸ List.mem_cons_self) (bracket_not_mem_text formed named)
    · exact first
  | literal literal =>
    rw [named] at host_formed
    have inside : ∀ c ∈ '[' :: literal, decide (c ≠ ']') = true := by
      refine List.forall_mem_cons.mpr ⟨by decide, fun c mem => ?_⟩
      rw [decide_eq_true_eq]
      rintro rfl
      exact absurd (host_formed _ mem) (by decide)
    have written : address.text = '[' :: literal ++ (']' :: address.portText) := by
      simp [text, named, Host.text]
    have ends : ∀ c ∈ (']' :: address.portText).head?, decide (c ≠ ']') = false := by
      intro c mem
      cases mem
      rfl
    have first := takeWhile_append_eq inside ends
    rw [← written] at first
    split
    · rw [first]
      rfl
    · rename_i unbracketed
      exact absurd written (unbracketed _)

lemma splitAuthority_text (formed : address.WellFormed) {found : List Char × List Char}
    (split : Uri.splitAuthority (address.text ++ ['/']) = .ok found) :
    found = (address.text, ['/']) ∧ ∀ c ∈ address.text, Visible c := by
  have inside : ∀ c ∈ address.text, (!endsAuthority c) = true := by
    intro c mem
    rw [endsAuthority_eq_false formed mem]
    rfl
  have front : (address.text ++ ['/']).takeWhile (!endsAuthority ·) = address.text :=
    takeWhile_append_eq inside fun c mem => by cases mem; rfl
  have back : (address.text ++ ['/']).dropWhile (!endsAuthority ·) = ['/'] := by
    rw [List.dropWhile_append_of_pos inside]
    rfl
  unfold Uri.splitAuthority at split
  rw [front, back] at split
  dsimp only at split
  cases scanned : address.text.foldlM Uri.Scan.next Uri.Scan.start with
  | error error =>
    rw [scanned] at split
    cases split
  | ok scan =>
    rw [scanned] at split
    refine ⟨?_, Uri.visible_of_scan scanned⟩
    dsimp only at split
    split_ifs at split
    cases split
    rfl

lemma dropWord?_append {word : String} (rest : List Char)
    (lower : word.toList.map Char.toLower = word.toList) :
    Uri.dropWord? word (word.toList ++ rest) = some rest := by
  have length : word.length = word.toList.length := String.length_toList.symm
  unfold Uri.dropWord?
  rw [length, List.take_left, List.drop_left, if_pos lower]

/-- What a URI which consists of an address is read as. -/
lemma parse_url (formed : address.WellFormed) {uri : Uri}
    (accepted : Uri.parse address.url = .ok uri) :
    uri = ⟨some "http", address.text, ['/'], none⟩ ∧ address.text ≠ [] ∧
      ∀ c ∈ address.text, Visible c := by
  have full : Uri.parseFull ("http://".toList ++ (address.text ++ ['/'])) = .ok uri := by
    have written : address.url.toList = "http://".toList ++ (address.text ++ ['/']) := by
      simp only [url, String.toList_append, String.toList_ofList]
    rw [Uri.parse, if_neg (Uri.not_long_of_parse accepted), written] at accepted
    exact accepted
  have scheme : Uri.splitScheme ("http://".toList ++ (address.text ++ ['/']))
      = .ok (some "http", address.text ++ ['/']) := by
    unfold Uri.splitScheme
    rw [dropWord?_append _ (by decide)]
  obtain ⟨split_scheme, begun, full⟩ := of_bind_ok full
  obtain rfl := Except.ok.inj (begun.symm.trans scheme)
  obtain ⟨split_authority, split, full⟩ := of_bind_ok full
  obtain ⟨rfl, visible⟩ := splitAuthority_text formed split
  cases written : address.text with
  | nil =>
    rw [written] at full
    cases full
  | cons c rest =>
    rw [written] at full visible
    cases full
    exact ⟨rfl, by simp, visible⟩

/-- The host of a URI which consists of an address. -/
lemma host?_of_parse_url (formed : address.WellFormed) {uri : Uri}
    (accepted : Uri.parse address.url = .ok uri) :
    uri.host? = some (String.ofList address.host.text) := by
  obtain ⟨rfl, written, -⟩ := parse_url formed accepted
  unfold Uri.host?
  rw [if_neg (by simpa using written)]
  exact congrArg (some ∘ String.ofList) (hostOf_text formed)

end Address
end Admission.Http
