import MapStandin.DataDownload.Address
import MapStandin.Proofs.Url.Address

/-! # Where results lie

The address of a result lies at the host that the client names, or else at the one of the base
address, whatever slashes end it. Its path is made of a version and a time stamp. -/

namespace MapStandin.DataDownload

open Url (Host HostPort PlainName hostAddress isHostChar)

/-! ## Paths -/

def IsStamp (s : String) : Prop := ∀ c ∈ s.toList, c.isDigit = true ∨ c = '_'

instance (s : String) : Decidable (IsStamp s) :=
  inferInstanceAs (Decidable (∀ c ∈ s.toList, c.isDigit = true ∨ c = '_'))

def resultNames (version stamp : String) : List String := ["download", version, resultName stamp]

variable {version stamp baseUrl : String} {named : Option String} {host : Host}
  {port : Option Nat}

theorem not_contains_resultName {names : List String}
    (h : ∀ name ∈ names, name.toList.getLast? ≠ some 'p') :
    names.contains (Text.small (resultName stamp)) = false := by
  have hlast : (Text.small (resultName stamp)).toList.getLast? = some 'p' := by
    have hending : (".zip".toList.map Char.toLower).getLast? = some 'p' := by decide
    simp only [Text.small, resultName, String.toList_ofList, String.toList_append, List.map_append,
      List.getLast?_append, hending, Option.some_or]
  rw [List.contains_eq_mem, decide_eq_false_iff_not]
  exact fun hmem => h _ hmem hlast

theorem plainName_resultName (h : IsStamp stamp) : PlainName (resultName stamp) where
  chars := by
    intro c hc
    rw [resultName, String.toList_append, List.mem_append] at hc
    obtain hc | hc := hc
    · obtain hdigit | rfl := h c hc
      · simp [isHostChar, Char.isAlphanum, hdigit]
      · decide
    · have hending : ∀ c ∈ ".zip".toList, isHostChar c = true := by decide
      exact hending c hc
  notUp := not_contains_resultName (by decide)
  notHere := not_contains_resultName (by decide)

theorem plainName_resultNames (hversion : PlainName version) (hstamp : IsStamp stamp) :
    ∀ name ∈ resultNames version stamp, PlainName name := by
  have hdownload : PlainName "download" := ⟨by decide, by decide, by decide⟩
  simp only [resultNames, List.forall_mem_cons, List.not_mem_nil, false_implies, implies_true,
    and_true]
  exact ⟨hdownload, hversion, plainName_resultName hstamp⟩

theorem text_resultNames (version stamp : String) :
    (Url.Path.names (resultNames version stamp)).text = "/" ++ resultPath version stamp := by
  apply String.toList_injective
  simp [Url.Path.text, resultNames, resultPath]

/-! ## Roots -/

/-- The host from which addresses are rooted: the one that the client names, or else the one of the
base address. -/
inductive RootedAt (baseUrl : String) : Option String → Host → Option Nat → Prop
  | named {place : String} {host : Host} {port : Option Nat} (h : HostPort place host port) :
      RootedAt baseUrl (some place) host port
  | base {place : String} {host : Host} {port : Option Nat} (h : HostPort place host port)
      (slashes : Nat)
      (base : baseUrl = "http://" ++ place ++ String.ofList (List.replicate slashes '/')) :
      RootedAt baseUrl none host port

theorem withoutSlashes_eq {place : String} (h : HostPort place host port) (slashes : Nat) :
    withoutSlashes ("http://" ++ place ++ String.ofList (List.replicate slashes '/')) =
      "http://" ++ place := by
  obtain ⟨c, cs, hreverse⟩ : ∃ c cs, place.toList.reverse = c :: cs := by
    obtain ⟨c, cs, hplace, -⟩ := h.exists_cons
    exact List.exists_cons_of_ne_nil (by simp [hplace])
  have hc : c ≠ '/' := by
    have hmem : c ∈ place.toList := List.mem_reverse.1 (hreverse ▸ List.mem_cons_self)
    rintro rfl
    exact absurd (h.chars '/' hmem) (by decide)
  have hslashes : ∀ c ∈ List.replicate slashes '/', decide (c = '/') = true := fun c hc => by
    simp [List.eq_of_mem_replicate hc]
  unfold withoutSlashes
  rw [String.toList_append, String.toList_ofList, List.reverse_append, List.reverse_replicate,
    List.dropWhile_append_of_pos hslashes, String.toList_append, List.reverse_append, hreverse,
    List.cons_append, List.dropWhile_cons_of_neg (by simpa using hc), ← List.cons_append,
    ← hreverse, ← List.reverse_append, List.reverse_reverse, ← String.toList_append,
    String.ofList_toList]

theorem addressRoot_eq (h : RootedAt baseUrl named host port) :
    ∃ place, HostPort place host port ∧
      addressRoot baseUrl named = "http://" ++ place ++ (Url.Path.names [""]).text := by
  have hroot : (Url.Path.names [""]).text = "/" := by decide
  cases h with
  | @named place _ _ h => exact ⟨place, h, by rw [hroot]; rfl⟩
  | @base place _ _ h slashes base =>
    exact ⟨place, h, by rw [hroot, base, addressRoot, withoutSlashes_eq h]⟩

theorem resultAddress_eq (h : RootedAt baseUrl named host port) (hversion : PlainName version)
    (hstamp : IsStamp stamp) :
    resultAddress baseUrl named version stamp =
      .ok (hostAddress host port (resultNames version stamp)).text := by
  obtain ⟨place, hplace, hroot⟩ := addressRoot_eq h
  have hempty : ∀ name ∈ [""], PlainName name := fun name hname => by
    rw [List.mem_singleton.1 hname]
    exact Url.plainName_empty
  have hparse := Url.parse_eq hplace hempty (by simp)
  have hjoin : (hostAddress host port [""]).join (resultPath version stamp) =
      .ok (hostAddress host port (resultNames version stamp)) :=
    Url.join_eq (plainName_resultNames hversion hstamp) (text_resultNames version stamp)
  simp only [resultAddress, hroot, hparse, hjoin, bind, Except.bind]
  rfl

end MapStandin.DataDownload
