import Admission.Proofs.Http.Authority
import Admission.Subject

/-!
# Hosts of requests

The host of a request is read from its URI, or else from the host header, where it ends at the first
colon. For a name the two are the same. A literal in brackets has colons of its own: in the URI it
is the host as a whole, in the header only what stands before the first of them is, so that all
literals which begin alike share one partition.
-/

namespace Admission.RequestHead

open Http

namespace Draft

/-- Whether the URI of a draft is a path, with neither scheme nor authority. -/
def IsRelative (draft : Draft) : Prop := ∃ rest, (draft.uri.getD "/").toList = '/' :: rest

def withUri (draft : Draft) (uri : String) : Draft := { draft with uri := some uri }

/-- The draft with one more header at a place among the others. -/
def insertHeader (draft : Draft) (place : Nat) (header : String × List Nat) : Draft :=
  { draft with headers := draft.headers.take place ++ header :: draft.headers.drop place }

def Readable (draft : Draft) : Prop := ∃ head, ofDraft draft = .ok head

end Draft

section Reading

variable {draft : Draft} {head : RequestHead}

/-- What a draft which can be read is read as. -/
lemma of_ofDraft (read : ofDraft draft = .ok head) :
    parseMethod (draft.method.getD "GET") = .ok head.method ∧
      Uri.parse (draft.uri.getD "/") = .ok head.uri ∧
      draft.headers.mapM parseHeader = .ok head.headers := by
  obtain ⟨method, method_read, read⟩ := of_bind_ok read
  obtain ⟨uri, uri_read, read⟩ := of_bind_ok read
  obtain ⟨headers, headers_read, read⟩ := of_bind_ok read
  cases read
  refine ⟨method_read, ?_, headers_read⟩
  cases parsed : Uri.parse (draft.uri.getD "/") with
  | error error =>
    rw [parsed] at uri_read
    cases uri_read
  | ok found =>
    rw [parsed] at uri_read
    cases uri_read
    rfl

lemma ofDraft_eq {method : String} {uri : Uri} {headers : List (String × List Nat)}
    (method_read : parseMethod (draft.method.getD "GET") = .ok method)
    (uri_read : Uri.parse (draft.uri.getD "/") = .ok uri)
    (headers_read : draft.headers.mapM parseHeader = .ok headers) :
    ofDraft draft = .ok ⟨method, uri, headers⟩ := by
  unfold ofDraft
  rw [method_read, uri_read, headers_read]
  rfl

lemma parse_relative {text : String} {uri : Uri} {rest : List Char}
    (path : text.toList = '/' :: rest) (read : Uri.parse text = .ok uri) : uri.authority = [] := by
  rw [Uri.parse, if_neg (Uri.not_long_of_parse read), path] at read
  obtain ⟨found, -, read⟩ := of_bind_ok read
  cases read
  rfl

/-- No header of another name is found under the name of the host. -/
lemma lookup_host_eq_none {headers : List (String × List Nat)} {found : List (String × List Nat)}
    (read : headers.mapM parseHeader = .ok found)
    (hostless : ∀ header ∈ headers, parseHeaderName header.1 ≠ .ok "host") :
    found.lookup "host" = none := by
  induction headers generalizing found with
  | nil =>
    cases read
    rfl
  | cons header rest ih =>
    rw [List.mapM_cons] at read
    obtain ⟨first, first_read, read⟩ := of_bind_ok read
    obtain ⟨others, others_read, read⟩ := of_bind_ok read
    cases read
    obtain ⟨name, name_read, first_read⟩ := of_bind_ok first_read
    obtain ⟨value, -, first_read⟩ := of_bind_ok first_read
    cases first_read
    have other : "host" ≠ name := by
      rintro rfl
      exact hostless header List.mem_cons_self name_read
    rw [List.lookup_cons, beq_false_of_ne other]
    exact ih others_read fun header mem => hostless header (List.mem_cons_of_mem _ mem)

end Reading

section Hosts

variable {address : Address} {draft : Draft}

/-- A draft which can be read can be read for an address as well, and the host is the whole host of
the address. -/
lemma ofDraft_withUri (formed : address.WellFormed) (valid : ∃ uri, Uri.parse address.url = .ok uri)
    (readable : draft.Readable) :
    ∃ head, ofDraft (draft.withUri address.url) = .ok head ∧
      head.host? = some (String.ofList address.host.text) := by
  obtain ⟨uri, accepted⟩ := valid
  obtain ⟨head, read⟩ := readable
  obtain ⟨method_read, -, headers_read⟩ := of_ofDraft read
  refine ⟨⟨head.method, uri, head.headers⟩, ofDraft_eq method_read accepted headers_read, ?_⟩
  unfold host?
  rw [Address.host?_of_parse_url formed accepted]

/-- A draft without a host which can be read can be read with an address in the host header as
well, and the host is the address up to its first colon. -/
lemma ofDraft_insertHeader (visible : ∀ c ∈ address.text, Visible c) (readable : draft.Readable)
    (relative : draft.IsRelative)
    (hostless : ∀ header ∈ draft.headers, parseHeaderName header.1 ≠ .ok "host")
    {name : String} (named : parseHeaderName name = .ok "host") (place : Nat) :
    ∃ head,
      ofDraft (draft.insertHeader place (name, bytesOf (String.ofList address.text))) = .ok head ∧
      head.host? = some (String.ofList (address.text.takeWhile (· ≠ ':'))) := by
  obtain ⟨head, read⟩ := readable
  obtain ⟨rest, path⟩ := relative
  obtain ⟨method_read, uri_read, headers_read⟩ := of_ofDraft read
  rw [← List.take_append_drop place draft.headers] at headers_read
  obtain ⟨early, late, early_read, late_read, -⟩ := of_mapM_append_ok headers_read
  let header := (name, bytesOf (String.ofList address.text))
  have header_read : parseHeader header = .ok ("host", bytesOf (String.ofList address.text)) := by
    unfold parseHeader
    rw [named, parseHeaderValue_ofList visible]
    rfl
  have all_read : (draft.headers.take place ++ header :: draft.headers.drop place).mapM parseHeader
      = .ok (early ++ ("host", bytesOf (String.ofList address.text)) :: late) := by
    rw [List.mapM_append, List.mapM_cons, early_read, header_read, late_read]
    rfl
  refine ⟨_, ofDraft_eq method_read uri_read all_read, ?_⟩
  have no_authority : Uri.host? head.uri = none := by
    unfold Uri.host?
    rw [parse_relative path uri_read]
    rfl
  have absent := lookup_host_eq_none early_read fun other mem =>
    hostless other (List.mem_of_mem_take mem)
  unfold host? header?
  dsimp only
  rw [no_authority, List.lookup_append, absent, List.lookup_cons_self, Option.none_or,
    Option.bind_some, valueText?_ofList visible]
  simp

/-- The two ways to name an address in a request. As the authority of the URI it gives its whole
host, in the host header what its host has before the first colon. The hosts, and so the keys of the
partitions, are the same if and only if the host is no literal with a colon in it. -/
theorem hosts_agree_iff_no_colon_in_literal (formed : address.WellFormed)
    (valid : ∃ uri, Uri.parse address.url = .ok uri) {toUrl toPath : Draft}
    (url_readable : toUrl.Readable) (path_readable : toPath.Readable)
    (relative : toPath.IsRelative)
    (hostless : ∀ header ∈ toPath.headers, parseHeaderName header.1 ≠ .ok "host")
    {name : String} (named : parseHeaderName name = .ok "host") (place : Nat) :
    ∃ absolute withHeader,
      ofDraft (toUrl.withUri address.url) = .ok absolute ∧
      ofDraft (toPath.insertHeader place (name, bytesOf (String.ofList address.text)))
        = .ok withHeader ∧
      absolute.host? = some (String.ofList address.host.text) ∧
      withHeader.host? = some (String.ofList (address.host.text.takeWhile (· ≠ ':'))) ∧
      (absolute.host? = withHeader.host? ↔
        ∀ inner, address.host = .literal inner → ':' ∉ inner) ∧
      (absolute.hostKey? = withHeader.hostKey? ↔
        ∀ inner, address.host = .literal inner → ':' ∉ inner) := by
  have visible : ∀ c ∈ address.text, Visible c := by
    obtain ⟨uri, accepted⟩ := valid
    exact (Address.parse_url formed accepted).2.2
  obtain ⟨absolute, url_read, whole⟩ := ofDraft_withUri formed valid url_readable
  obtain ⟨withHeader, path_read, front⟩ :=
    ofDraft_insertHeader visible path_readable relative hostless named place
  rw [address.takeWhile_text] at front
  have agree : absolute.host? = withHeader.host? ↔
      ∀ inner, address.host = .literal inner → ':' ∉ inner := by
    rw [whole, front, Option.some_inj, String.ofList_inj, eq_comm]
    exact Host.takeWhile_text_eq_iff formed.host
  exact ⟨absolute, withHeader, url_read, path_read, whole, front, agree, agree⟩

/-- A name with a port, after another header: both ways give the name. -/
theorem hosts_agree_iff_no_colon_in_literal_at_name :
    ∃ absolute withHeader,
      ofDraft ⟨none, some "http://other.example:443/", []⟩ = .ok absolute ∧
      ofDraft ⟨none, some "/path", [("x-tenant", [97]), ("Host", bytesOf "other.example:443")]⟩
        = .ok withHeader ∧
      absolute.host? = some "other.example" ∧ withHeader.host? = some "other.example" := by
  have formed : (Address.mk (.name "other.example".toList) (some "443".toList)).WellFormed := by
    constructor
    · show IsPlain "other.example".toList
      decide +kernel
    · rintro port ⟨⟩
      decide +kernel
  have url_readable : Draft.Readable ⟨none, none, []⟩ :=
    ⟨⟨"GET", ⟨none, [], ['/'], none⟩, []⟩, by decide +kernel⟩
  have path_readable : Draft.Readable ⟨none, some "/path", [("x-tenant", [97])]⟩ :=
    ⟨⟨"GET", ⟨none, [], "/path".toList, none⟩, [("x-tenant", [97])]⟩, by decide +kernel⟩
  have named : parseHeaderName "Host" = .ok "host" := by decide +kernel
  obtain ⟨absolute, withHeader, url_read, path_read, whole, -, agree, -⟩ :=
    hosts_agree_iff_no_colon_in_literal formed
      ⟨⟨some "http", "other.example:443".toList, ['/'], none⟩, by decide +kernel⟩
      url_readable path_readable ⟨"path".toList, by decide +kernel⟩ (by decide +kernel) named 1
  exact ⟨absolute, withHeader, url_read, path_read, whole,
    (agree.mpr fun _ literal => nomatch literal) ▸ whole⟩

/-- The loopback address with a port: the URI gives the literal, the header its bracket. -/
theorem literal_is_cut_in_header :
    (ofDraft ⟨none, some "http://[::1]:80/", []⟩).map host? = .ok (some "[::1]") ∧
    (ofDraft ⟨none, some "/", [("Host", [91, 58, 58, 49, 93, 58, 56, 48])]⟩).map host?
      = .ok (some "[") := by
  decide +kernel

end Hosts
end Admission.RequestHead
