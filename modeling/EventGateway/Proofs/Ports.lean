import EventGateway.Proofs.Splitting
import EventGateway.Text.Port
import Mathlib.Data.List.TakeWhile

/-!
# The authority and the port

The port of a URL is read off its authority: behind the host, after a colon (`portText?_of_isHost`).
A scheme in front of the authority is left out, and so is a path behind it.  But the end of the
scheme is looked for in the whole URL: where no scheme stands in front, a `://` in the path is taken
for it, and the port is the one of what follows there.

## Main statements

* `afterScheme_append`, `afterScheme_eq_self` — what is left out as the scheme.
* `portLaw` — what the port of a URL is read off.
* `not_only_the_authority_decides` — a port that comes from the path.
-/

namespace EventGateway.Text

/-- The end of a scheme. -/
def schemeEnd : List Char := [':', '/', '/']

/-! ## Schemes -/

/-- A URL without the end of a scheme has no scheme. -/
theorem afterScheme_eq_self {url : List Char} (h : ¬ schemeEnd <:+: url) :
    afterScheme url = url := by
  have uncut : splitOnce [':', '/', '/'] url = none := splitOnce_eq_none h
  rw [afterScheme, uncut]

/-- **The scheme goes up to the first `://`.** -/
theorem afterScheme_append {scheme : List Char} (h : ¬ schemeEnd <:+: scheme) (rest : List Char) :
    afterScheme (scheme ++ (schemeEnd ++ rest)) = rest := by
  have cut : splitOnce [':', '/', '/'] (scheme ++ (schemeEnd ++ rest)) = some (scheme, rest) :=
    splitOnce_of_not_infix (by decide) h rest
  rw [afterScheme, cut]

/-- A text without colons does not contain the end of a scheme. -/
theorem not_schemeEnd_of_colon {s : List Char} (h : ':' ∉ s) : ¬ schemeEnd <:+: s :=
  fun inside => h (inside.subset List.mem_cons_self)

/-- A text without slashes does not contain the end of a scheme. -/
theorem not_schemeEnd_of_slash {s : List Char} (h : '/' ∉ s) : ¬ schemeEnd <:+: s :=
  fun inside => h (inside.subset (by decide))

/-- Between an authority and a path there is no end of a scheme, unless the authority ends with a
colon. -/
theorem not_schemeEnd_of_path {a p : List Char} (flat : '/' ∉ a) (last : a.getLast? ≠ some ':')
    (h : ¬ schemeEnd <:+: p) : ¬ schemeEnd <:+: a ++ '/' :: p := by
  induction a with
  | nil =>
    intro inside
    rcases List.infix_cons_iff.1 inside with start | inside
    · exact absurd (List.cons_prefix_cons.1 start).1 (by decide)
    · exact h inside
  | cons c a ih =>
    intro inside
    obtain ⟨-, later⟩ := not_or.1 (mt List.mem_cons.2 flat)
    rw [List.cons_append] at inside
    rcases List.infix_cons_iff.1 inside with start | inside
    · -- Here the authority has a colon, and what follows in it is no slash.
      rw [schemeEnd, List.cons_prefix_cons] at start
      obtain ⟨rfl, start⟩ := start
      cases a with
      | nil => exact last rfl
      | cons d a =>
        obtain ⟨rfl, -⟩ := List.cons_prefix_cons.1 start
        exact later List.mem_cons_self
    · refine ih later (fun eq => last ?_) inside
      cases a with
      | nil => cases eq
      | cons d a => rwa [List.getLast?_cons_cons]

/-! ## Authorities -/

/-- **The authority goes up to the first slash.** -/
theorem authority_append {a : List Char} (flat : '/' ∉ a) (p : List Char) :
    authority (a ++ '/' :: p) = a := by
  have clean : ∀ c ∈ a, (c != '/') = true := fun c mem => bne_iff_ne.2 fun eq => flat (eq ▸ mem)
  rw [authority, List.takeWhile_append_of_pos clean, List.takeWhile_cons_of_neg (by decide),
    List.append_nil]

/-- Without a slash, all is the authority. -/
theorem authority_eq_self {a : List Char} (flat : '/' ∉ a) : authority a = a :=
  List.takeWhile_eq_self_iff.2 fun _ mem => bne_iff_ne.2 fun eq => flat (eq ▸ mem)

/-- A host in front of a port: a name without colons, or an address in brackets, whose colons are
its own, and what follows it without colons. -/
inductive IsHost : List Char → Prop where
  | name {h : List Char} (unbracketed : h.head? ≠ some '[') (noColon : ':' ∉ h) : IsHost h
  | address {x r : List Char} (inside : ']' ∉ x) (noColon : ':' ∉ r) :
    IsHost ('[' :: (x ++ ']' :: r))

/-- What follows the first colon. -/
theorem afterColon?_append {host : List Char} (noColon : ':' ∉ host) (t : List Char) :
    afterColon? (host ++ ':' :: t) = some t := by
  rw [afterColon?, splitOnce_of_notMem noColon]
  rfl

/-- Where no bracket opens, the port follows the first colon. -/
theorem portText?_of_head? {s : List Char} (h : s.head? ≠ some '[') :
    portText? s = afterColon? s := by
  unfold portText?
  split
  next => exact absurd rfl h
  next => rfl

/-- **The port stands behind the host.** -/
theorem portText?_of_isHost {host : List Char} (h : IsHost host) (t : List Char) :
    portText? (host ++ ':' :: t) = some t := by
  cases h with
  | name unbracketed noColon =>
    rw [portText?_of_head?, afterColon?_append noColon]
    cases host with
    | nil => simp
    | cons c host => exact unbracketed
  | @address x r inside noColon =>
    have cut : splitOnce [']'] (x ++ ']' :: (r ++ ':' :: t)) = some (x, r ++ ':' :: t) :=
      splitOnce_of_notMem inside _
    rw [List.cons_append, List.append_assoc, List.cons_append, portText?, cut, Option.bind_some]
    exact afterColon?_append noColon t

/-! ## The port of a URL -/

namespace Template

/-- The port in an authority. -/
def ofAuthority (a : List Char) : Template :=
  match portText? a with
  | some text => parse (String.ofList text)
  | none => .empty

/-- The port of a URL is that of its authority. -/
theorem ofPort_eq (url : String) :
    ofPort url = ofAuthority (authority (afterScheme url.toList)) := rfl

/-- The port of an authority with a host is what follows the host. -/
theorem ofAuthority_of_isHost {host : List Char} (h : IsHost host) (t : String) :
    ofAuthority (host ++ ':' :: t.toList) = parse t := by
  rw [ofAuthority, portText?_of_isHost h]
  exact congrArg parse String.ofList_toList

/-- What the port of a URL with the authority `a` is read off. -/
structure PortLaw (a : String) : Prop where
  /-- A path without `://` has no influence. -/
  path : ∀ p : String, a.toList.getLast? ≠ some ':' → ¬ schemeEnd <:+: p.toList →
    ofPort (a ++ "/" ++ p) = ofPort a
  /-- The first `://` of a path is taken for the end of a scheme. -/
  pathScheme : ∀ p rest : String, a.toList.getLast? ≠ some ':' → ¬ schemeEnd <:+: p.toList →
    ofPort (a ++ "/" ++ p ++ "://" ++ rest) = ofPort ("://" ++ rest)
  /-- Behind a scheme, neither the scheme nor a path has any influence. -/
  scheme : ∀ s p : String, ':' ∉ s.toList →
    ofPort (s ++ "://" ++ a ++ "/" ++ p) = ofPort (s ++ "://" ++ a) ∧
      ofPort (s ++ "://" ++ a) = ofPort a
  /-- The port is all that follows the host and a colon. -/
  host : ∀ h t : String, IsHost h.toList → a = h ++ ":" ++ t → ofPort a = parse t

/-- **What the port of a URL is read off**: the authority, unless there is no scheme in front of it
and `://` in the path behind it. -/
theorem portLaw {a : String} (flat : '/' ∉ a.toList) : PortLaw a := by
  have whole : ofPort a = ofAuthority a.toList := by
    rw [ofPort_eq, afterScheme_eq_self (not_schemeEnd_of_slash flat), authority_eq_self flat]
  refine ⟨fun p last plain => ?_, fun p rest last plain => ?_, fun s p noColon => ?_,
    fun h t host eq => ?_⟩
  · have url : (a ++ "/" ++ p).toList = a.toList ++ '/' :: p.toList := by simp
    rw [whole, ofPort_eq, url, afterScheme_eq_self (not_schemeEnd_of_path flat last plain),
      authority_append flat]
  · have url : (a ++ "/" ++ p ++ "://" ++ rest).toList =
        (a.toList ++ '/' :: p.toList) ++ (schemeEnd ++ rest.toList) := by simp [schemeEnd]
    have bare : ("://" ++ rest).toList = [] ++ (schemeEnd ++ rest.toList) := by simp [schemeEnd]
    rw [ofPort_eq, ofPort_eq, url, bare,
      afterScheme_append (not_schemeEnd_of_path flat last plain),
      afterScheme_append (not_schemeEnd_of_colon List.not_mem_nil)]
  · have url : (s ++ "://" ++ a ++ "/" ++ p).toList =
        s.toList ++ (schemeEnd ++ (a.toList ++ '/' :: p.toList)) := by simp [schemeEnd]
    have short : (s ++ "://" ++ a).toList = s.toList ++ (schemeEnd ++ a.toList) := by
      simp [schemeEnd]
    have noScheme := not_schemeEnd_of_colon noColon
    have bare : ofPort (s ++ "://" ++ a) = ofPort a := by
      rw [whole, ofPort_eq, short, afterScheme_append noScheme, authority_eq_self flat]
    refine ⟨?_, bare⟩
    rw [bare, whole, ofPort_eq, url, afterScheme_append noScheme, authority_append flat]
  · have parts : a.toList = h.toList ++ ':' :: t.toList := by simp [eq]
    rw [whole, parts, ofAuthority_of_isHost host]

/-- A proxy whose path names another server. -/
theorem proxy_portLaw :
    '/' ∉ "[::1]:8080".toList ∧ PortLaw "[::1]:8080" ∧
      ofPort "[::1]:8080/fetch" = parse "8080" ∧
      ofPort "[::1]:8080/fetch/http://target:9090/data" = parse "9090" := by
  have flat : '/' ∉ "[::1]:8080".toList := by decide
  have law := portLaw flat
  have host : IsHost "[::1]".toList :=
    .address (x := [':', ':', '1']) (r := []) (by decide) (by decide)
  have port : ofPort "[::1]:8080" = parse "8080" := law.host "[::1]" "8080" host (by decide)
  have target : ofPort "://target:9090/data" = parse "9090" := by
    have law := portLaw (a := "target:9090") (by decide)
    have host : IsHost "target".toList := .name (by decide) (by decide)
    obtain ⟨behind, port⟩ := law.scheme "" "data" (by decide)
    exact behind.trans (port.trans (law.host "target" "9090" host (by decide)))
  refine ⟨flat, law, ?_, ?_⟩
  · exact (law.path "fetch" (by decide) (by decide)).trans port
  · exact (law.pathScheme "fetch/http" "target:9090/data" (by decide) (by decide)).trans target

/-- **A path may decide the port.** -/
theorem not_only_the_authority_decides :
    ¬ ∀ a p : String, '/' ∉ a.toList → a.toList.getLast? ≠ some ':' →
      ofPort (a ++ "/" ++ p) = ofPort a := by
  intro all
  have same := all "proxy:8080" "fetch/http://target:9090/data" (by decide) (by decide)
  revert same
  decide +kernel

end Template

end EventGateway.Text
