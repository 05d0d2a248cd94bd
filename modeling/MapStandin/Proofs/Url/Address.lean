import MapStandin.Proofs.Text.Trim
import MapStandin.Proofs.Url.Host
import MapStandin.Url.Reader

/-! # Addresses of hosts

An address with a host and a path of plain names is read as what it says. What is read is written as
an address that is read as the same again, and a path is joined to the root of a host by being put
there. -/

namespace MapStandin.Url

/-! ## Characters of an address -/

section Characters

/-- Whether a character may stand in an address of a host: one of its names, or a sign that parts
them. -/
def isAddressChar (c : Char) : Bool := isHostChar c || c = ':' || c = '/'

variable {c d : Char} {cs : List Char} {s : String}

theorem isAddressChar_of_isHostChar (h : isHostChar c = true) : isAddressChar c = true := by
  simp [isAddressChar, h]

theorem toNat_of_isAddressChar (h : isAddressChar c = true) : 0x2B ≤ c.toNat ∧ c.toNat ≤ 0x7A := by
  simp only [isAddressChar, Bool.or_eq_true, decide_eq_true_eq] at h
  obtain (h | rfl) | rfl := h
  · exact toNat_of_isHostChar h
  · decide
  · decide

theorem not_mem_of_isAddressChar (h : ∀ c ∈ cs, isAddressChar c = true)
    (hd : isAddressChar d = false) : d ∉ cs := by
  intro hmem
  simp [h d hmem] at hd

theorem clean_eq (h : ∀ c ∈ s.toList, isAddressChar c = true) : clean s = s.toList := by
  have hedge : ∀ c ∈ s.toList, isEdge c = false ∧ (!isDropped c) = true := by
    intro c hc
    exact of_toNat_le (p := fun c => isAddressChar c = true → isEdge c = false ∧
      (!isDropped c) = true) (by decide +kernel) (toNat_of_isAddressChar (h c hc)).2 (h c hc)
  have hreverse : ∀ c ∈ s.toList.reverse, isEdge c = false := fun c hc =>
    (hedge c (List.mem_reverse.1 hc)).1
  unfold clean
  rw [Text.dropWhile_eq_self fun c hc => (hedge c hc).1, Text.dropWhile_eq_self hreverse,
    List.reverse_reverse, List.filter_eq_self.2 fun c hc => (hedge c hc).2]

theorem splitTail_eq (special : Bool) (h : ∀ c ∈ cs, isAddressChar c = true) :
    splitTail special cs = (cs, none, none) := by
  unfold splitTail
  rw [Text.splitFirst_of_not_mem (not_mem_of_isAddressChar h (by decide))]
  simp only
  rw [Text.splitFirst_of_not_mem (not_mem_of_isAddressChar h (by decide))]

end Characters

/-! ## Ports -/

/-- The port that digits name; without digits there is none. -/
inductive PortText : List Char → Option Nat → Prop
  | none : PortText [] none
  | digits {cs : List Char} (notEmpty : cs ≠ []) (digits : ∀ c ∈ cs, c.isDigit = true)
      (small : Nat.ofDigitChars 10 cs 0 < 65536) : PortText cs (some (Nat.ofDigitChars 10 cs 0))

theorem inBase?_digits {cs : List Char} (digits : ∀ c ∈ cs, c.isDigit = true) (n : Nat) :
    cs.foldlM (fun n c => do
      let d ← Hex.value? c
      if d < 10 then some (n * 10 + d) else none) n = some (Nat.ofDigitChars 10 cs n) := by
  induction cs generalizing n with
  | nil => simp
  | cons c cs ih =>
    obtain ⟨hc, hcs⟩ := List.forall_mem_cons.1 digits
    have hvalue : Hex.value? c = some (c.toNat - '0'.toNat) ∧ c.toNat - '0'.toNat < 10 :=
      of_isHostChar (p := fun c => c.isDigit = true → Hex.value? c = some (c.toNat - '0'.toNat) ∧
        c.toNat - '0'.toNat < 10) (by decide +kernel)
        (by simp [isHostChar, Char.isAlphanum, hc]) hc
    rw [List.foldlM_cons, Nat.ofDigitChars_cons, ← ih hcs, Nat.mul_comm 10 n]
    simp only [hvalue.1, Option.bind_eq_bind, Option.bind_some, if_pos hvalue.2]

theorem PortText.port?_eq {cs : List Char} {port : Option Nat} (h : PortText cs port) :
    port? cs = .ok port := by
  cases h with
  | none => rfl
  | digits notEmpty digits small =>
    have hbase : Host.inBase? 10 cs = some (Nat.ofDigitChars 10 cs 0) := inBase?_digits digits 0
    unfold port?
    rw [List.all_eq_true.2 digits, if_neg (by simp), if_neg notEmpty, hbase]
    exact if_pos small

theorem portText_toString {n : Nat} (h : n < 65536) : PortText (toString n).toList (some n) := by
  have hvalue : Nat.ofDigitChars 10 (Nat.toDigits 10 n) 0 = n :=
    Nat.ofDigitChars_toDigits (by decide) (by decide)
  have hdigits : ∀ c ∈ Nat.toDigits 10 n, c.isDigit = true := fun c hc =>
    Nat.isDigit_of_mem_toDigits (by decide) (by decide) hc
  have hport := PortText.digits Nat.toDigits_ne_nil hdigits (by rw [hvalue]; exact h)
  rw [hvalue] at hport
  rw [Nat.toString_eq_ofList_toDigits, String.toList_ofList]
  exact hport

/-! ## Hosts with ports -/

/-- What a written host is read as, alone or with a port after it. -/
inductive HostPort : String → Host → Option Nat → Prop
  | alone {s : String} {host : Host} (h : Host.Written s host) : HostPort s host none
  | port {s digits : String} {host : Host} {port : Option Nat} (h : Host.Written s host)
      (number : PortText digits.toList port) : HostPort (s ++ ":" ++ digits) host port

section HostPort

variable {s place : String} {host : Host} {port : Option Nat} {cs rest : List Char}

theorem PortText.chars (h : PortText cs port) : ∀ c ∈ cs, isHostChar c = true := by
  cases h with
  | none => nofun
  | digits notEmpty digits small =>
    exact fun c hc => by simp [isHostChar, Char.isAlphanum, digits c hc]

theorem HostPort.chars (h : HostPort place host port) :
    ∀ c ∈ place.toList, isHostChar c = true ∨ c = ':' := by
  cases h with
  | alone h => exact fun c hc => .inl (h.chars c hc)
  | port h number =>
    intro c hc
    simp only [String.toList_append, List.mem_append] at hc
    obtain (hc | hc) | hc := hc
    · exact .inl (h.chars c hc)
    · exact .inr (List.mem_singleton.1 hc)
    · exact .inl (number.chars c hc)

theorem HostPort.exists_cons (h : HostPort place host port) :
    ∃ c cs, place.toList = c :: cs ∧ isHostChar c = true := by
  have hcons : ∀ {s}, Host.Written s host → ∃ c cs, s.toList = c :: cs ∧ isHostChar c = true := by
    intro s h
    cases hs : s.toList with
    | nil => exact absurd (String.toList_injective hs) h.notEmpty
    | cons c cs => exact ⟨c, cs, rfl, h.chars c (hs ▸ List.mem_cons_self)⟩
  cases h with
  | alone h => exact hcons h
  | port h number =>
    obtain ⟨c, cs, hs, hc⟩ := hcons h
    exact ⟨c, _, by rw [String.toList_append, String.toList_append, hs, List.append_assoc]; rfl, hc⟩

theorem splitPort_go (h : ∀ c ∈ cs, isHostChar c = true) (rest : List Char) :
    splitPort.go false (cs ++ rest) =
      (cs ++ (splitPort.go false rest).1, (splitPort.go false rest).2) := by
  induction cs with
  | nil => rfl
  | cons c cs ih =>
    obtain ⟨hc, hcs⟩ := List.forall_mem_cons.1 h
    have hcolon : c ≠ ':' := ne_of_isHostChar hc (by decide)
    have hbracket : c ≠ '[' := ne_of_isHostChar hc (by decide)
    rw [List.cons_append, splitPort.go]
    simp [hcolon, hbracket, ih hcs]

theorem HostPort.readAuthority_eq (h : HostPort place host port) :
    readAuthority "http" place.toList =
      .ok ⟨"", none, host, if port = some 80 then none else port⟩ := by
  -- No sign of a user name stands in the place.
  have huser : splitUser place.toList = none := by
    have hat : '@' ∉ place.toList.reverse := by
      intro hmem
      obtain hc | hc := h.chars '@' (List.mem_reverse.1 hmem)
      · exact absurd hc (by decide)
      · exact absurd hc (by decide)
    rw [splitUser, Text.splitFirst_of_not_mem hat]
    rfl
  have hsplit : ∃ s text, splitPort place.toList = (s.toList, text) ∧ Host.Written s host ∧
      PortText (text.getD []) port := by
    cases h with
    | alone h =>
      have hgo := splitPort_go h.chars []
      exact ⟨place, none, by simpa [splitPort, splitPort.go] using hgo, h, .none⟩
    | @port s digits _ _ h number =>
      refine ⟨s, some digits.toList, ?_, h, number⟩
      rw [String.toList_append, String.toList_append, List.append_assoc]
      exact (splitPort_go h.chars _).trans (by simp [splitPort.go])
  obtain ⟨s, text, hsplit, hs, hport⟩ := hsplit
  have hempty : s.toList ≠ [] := fun h => hs.notEmpty (String.toList_injective h)
  have hspecial : isSpecial "http" = true := by decide
  unfold readAuthority
  simp only [huser, hsplit, decide_eq_false hempty, Bool.false_and, Bool.false_eq_true, if_false,
    hspecial, hs.read_eq, hport.port?_eq]
  rfl

end HostPort

/-! ## Paths -/

/-- A name that stays as it is wherever it stands in a path. -/
structure PlainName (name : String) : Prop where
  chars : ∀ c ∈ name.toList, isHostChar c = true
  notUp : isUp name = false
  notHere : isHere name = false

section Paths

variable {names : List String} {name : String} {cs : List Char}

theorem plainName_empty : PlainName "" where
  chars := nofun
  notUp := by decide
  notHere := by decide

theorem below_eq (place : List String) (name : String) :
    below "http" place name = place ++ [name] := by
  unfold below
  split
  · exact if_neg (by simp)
  · rfl

theorem follow_eq (h : ∀ name ∈ names, PlainName name) (place : List String) :
    follow "http" place names = place ++ names := by
  induction names generalizing place with
  | nil => simp [follow]
  | cons name names ih =>
    obtain ⟨hname, hnames⟩ := List.forall_mem_cons.1 h
    cases names with
    | nil =>
      rw [follow, hname.notUp, hname.notHere]
      exact below_eq place name
    | cons next rest =>
      rw [follow, hname.notUp, hname.notHere]
      simp only [Bool.false_eq_true, if_false]
      rw [below_eq, ih hnames, List.append_assoc, List.singleton_append]
      exact nofun

theorem toList_text_cons (name : String) (names : List String) :
    (Path.names (name :: names)).text.toList =
      '/' :: (name.toList ++ (Path.names names).text.toList) := by
  simp [Path.text]

theorem fields_text (h : ∀ name ∈ names, PlainName name) :
    Text.fields '/' (Path.names names).text.toList = [] :: names.map String.toList := by
  induction names with
  | nil => rfl
  | cons name names ih =>
    obtain ⟨hname, hnames⟩ := List.forall_mem_cons.1 h
    rw [toList_text_cons, Text.fields, if_pos rfl, Text.fields_append_of_not_mem
      (not_mem_of_isHostChar hname.chars (by decide)) (ih hnames), List.append_nil, List.map_cons]

theorem encoded_eq (h : PlainName name) : encoded plainInPath name.toList = name := by
  have hplain : ∀ c ∈ name.toList, plainInPath c = true := fun c hc =>
    of_isHostChar (p := fun c => plainInPath c = true) (by decide +kernel) (h.chars c hc)
  rw [encoded, Percent.encode_of_plain hplain, String.ofList_toList]

theorem isAddressChar_of_mem_text (h : ∀ name ∈ names, PlainName name) :
    ∀ c ∈ (Path.names names).text.toList, isAddressChar c = true := by
  induction names with
  | nil => exact nofun
  | cons name names ih =>
    obtain ⟨hname, hnames⟩ := List.forall_mem_cons.1 h
    intro c hc
    rw [toList_text_cons, List.mem_cons, List.mem_append] at hc
    obtain rfl | hc | hc := hc
    · decide
    · exact isAddressChar_of_isHostChar (hname.chars c hc)
    · exact ih hnames c hc

theorem pathNames_eq (h : ∀ name ∈ names, PlainName name)
    (text : (Path.names names).text.toList = '/' :: cs) : pathNames true cs = names := by
  have hfields : Text.fields '/' cs = names.map String.toList := by
    have hall := fields_text h
    rw [text, Text.fields, if_pos rfl] at hall
    exact (List.cons_eq_cons.1 hall).2
  have hslash : ∀ c ∈ cs, (if isSlash true c then '/' else c) = c := by
    intro c hc
    have hchar : isAddressChar c = true :=
      isAddressChar_of_mem_text h c (text ▸ List.mem_cons_of_mem '/' hc)
    exact of_toNat_le (p := fun c => isAddressChar c = true →
      (if isSlash true c then '/' else c) = c) (by decide +kernel)
        (toNat_of_isAddressChar hchar).2 hchar
  unfold pathNames
  rw [List.map_congr_left hslash, List.map_id', hfields, List.map_map]
  have hself : ∀ name ∈ names, (encoded plainInPath ∘ String.toList) name = name :=
    fun name hname => encoded_eq (h name hname)
  rw [List.map_congr_left hself, List.map_id']

end Paths

/-! ## Whole addresses -/

/-- The address of a path at a host. A port that is used anyway is left out. -/
def hostAddress (host : Host) (port : Option Nat) (names : List String) : Url :=
  ⟨"http", some ⟨"", none, host, if port = some 80 then none else port⟩, .names names, none, none⟩

section Addresses

variable {place : String} {host : Host} {port : Option Nat} {names : List String}

theorem HostPort.isAddressChar_of_mem (h : HostPort place host port) :
    ∀ c ∈ place.toList, isAddressChar c = true := by
  intro c hc
  obtain hchar | rfl := h.chars c hc
  · exact isAddressChar_of_isHostChar hchar
  · decide

theorem cutPort_special (cs : List Char) : cutPort true cs = (cs, []) := by
  unfold cutPort
  simp only
  generalize (splitPort _).2 = port
  cases port <;> rfl

theorem readRootPath_eq {path : List Char} (plain : ∀ name ∈ names, PlainName name)
    (hnames : pathNames true path = names) : readRootPath "http" ('/' :: path) = names := by
  have hspecial : isSpecial "http" = true := by decide
  have hdrop : dropSlash true ('/' :: path) = path := rfl
  unfold readRootPath readPath
  simp only [hspecial, hdrop, hnames, follow_eq plain]
  rfl

theorem readPlace_eq (h : HostPort place host port) (plain : ∀ name ∈ names, PlainName name)
    (notEmpty : names ≠ []) :
    readPlace "http" ('/' :: '/' :: (place.toList ++ (Path.names names).text.toList)) =
      .ok ((hostAddress host port names).authority, .names names) := by
  obtain ⟨name, later, rfl⟩ := List.exists_cons_of_ne_nil notEmpty
  obtain ⟨c, cs, hplace, hc⟩ := h.exists_cons
  have hends : ∀ c ∈ place.toList, (!endsAuthority true c) = true := by
    intro c hc
    exact of_toNat_le (p := fun c => isHostChar c = true ∨ c = ':' → (!endsAuthority true c) = true)
      (by decide +kernel) (toNat_of_isAddressChar (h.isAddressChar_of_mem c hc)).2 (h.chars c hc)
  have hnames := pathNames_eq plain (toList_text_cons name later)
  rw [toList_text_cons]
  generalize name.toList ++ (Path.names later).text.toList = path at hnames ⊢
  -- The host does not begin with a slash, so two slashes and no more are skipped.
  have hslashes : afterSlashes? true ('/' :: '/' :: (place.toList ++ '/' :: path)) =
      some (place.toList ++ '/' :: path) := by
    have hslash : isSlash true c = false :=
      of_isHostChar (p := fun c => isSlash true c = false) (by decide +kernel) hc
    have htwo : isSlash true '/' = true := by decide
    simp [afterSlashes?, hplace, hslash, htwo]
  have hfront : (place.toList ++ '/' :: path).takeWhile (!endsAuthority true ·) = place.toList := by
    rw [List.takeWhile_append_of_pos hends, List.takeWhile_cons_of_neg (by decide),
      List.append_nil]
  have hback : (place.toList ++ '/' :: path).dropWhile (!endsAuthority true ·) = '/' :: path := by
    rw [List.dropWhile_append_of_pos hends, List.dropWhile_cons_of_neg (by decide)]
  have hspecial : isSpecial "http" = true := by decide
  have hroot := readRootPath_eq plain hnames
  unfold readPlace
  simp only [hspecial, hslashes, hfront, hback, cutPort_special, h.readAuthority_eq,
    List.nil_append, hroot]
  rfl

theorem parse_eq (h : HostPort place host port) (plain : ∀ name ∈ names, PlainName name)
    (notEmpty : names ≠ []) :
    parse ("http://" ++ place ++ (Path.names names).text) = .ok (hostAddress host port names) := by
  have htext : ("http://" ++ place ++ (Path.names names).text).toList =
      "http:".toList ++ '/' :: '/' :: (place.toList ++ (Path.names names).text.toList) := by
    rw [String.toList_append, String.toList_append, List.append_assoc]
    rfl
  have hrest : ∀ c ∈ '/' :: '/' :: (place.toList ++ (Path.names names).text.toList),
      isAddressChar c = true := by
    intro c hc
    simp only [List.mem_cons, List.mem_append] at hc
    obtain rfl | rfl | hc | hc := hc
    · decide
    · decide
    · exact h.isAddressChar_of_mem c hc
    · exact isAddressChar_of_mem_text plain c hc
  -- All characters are visible ASCII and mark neither a query nor a fragment.
  have hchars : ∀ c ∈ ("http://" ++ place ++ (Path.names names).text).toList,
      isAddressChar c = true := by
    have hscheme : ∀ c ∈ "http:".toList, isAddressChar c = true := by decide
    rw [htext]
    exact List.forall_mem_append.2 ⟨hscheme, hrest⟩
  have hplace := readPlace_eq h plain notEmpty
  unfold parse
  rw [clean_eq hchars, htext]
  generalize '/' :: '/' :: (place.toList ++ (Path.names names).text.toList) = rest at *
  have hscheme : scheme? ("http:".toList ++ rest) = some ("http", rest) := rfl
  simp only [hscheme, splitTail_eq _ hrest, hplace]
  rfl

/-- The text of a port after its sign. -/
def shownPort : Option Nat → String
  | some n => ":" ++ toString n
  | none => ""

theorem HostPort.text (h : HostPort place host port) :
    HostPort (host.text ++ shownPort port) host port := by
  have hwritten : Host.Written host.text host := by
    cases h with
    | alone h | port h => exact h.text
  cases h with
  | alone h => simpa [shownPort] using HostPort.alone hwritten
  | @port s digits _ _ h number =>
    generalize digits.toList = cs at number
    cases number with
    | none => simpa [shownPort] using HostPort.alone hwritten
    | digits notEmpty digits small =>
      simpa [shownPort, String.append_assoc] using HostPort.port hwritten (portText_toString small)

theorem HostPort.unusual (h : HostPort place host port) :
    ∃ place', HostPort place' host (if port = some 80 then none else port) := by
  by_cases husual : port = some 80
  · rw [if_pos husual]
    cases h with
    | alone h | port h => exact ⟨_, .alone h⟩
  · rw [if_neg husual]
    exact ⟨place, h⟩

/-- What is read is written as an address that is read as the same again. -/
theorem parse_text (h : HostPort place host port) (plain : ∀ name ∈ names, PlainName name)
    (notEmpty : names ≠ []) :
    parse (hostAddress host port names).text = .ok (hostAddress host port names) := by
  obtain ⟨place', h'⟩ := h.unusual
  have hagain := parse_eq h'.text plain notEmpty
  have hsame : hostAddress host (if port = some 80 then none else port) names =
      hostAddress host port names := by
    unfold hostAddress
    split_ifs <;> rfl
  rw [hsame] at hagain
  have htext : (hostAddress host port names).text = "http://" ++
      (host.text ++ shownPort (if port = some 80 then none else port)) ++
        (Path.names names).text := by
    apply String.toList_injective
    unfold hostAddress Url.text beforePath Authority.text Authority.userText optionalText
    cases (if port = some 80 then none else port) <;> simp [shownPort]
  rw [htext, hagain]

theorem join_eq {s : String} (plain : ∀ name ∈ names, PlainName name)
    (text : (Path.names names).text = "/" ++ s) :
    (hostAddress host port [""]).join s = .ok (hostAddress host port names) := by
  have htext : (Path.names names).text.toList = '/' :: s.toList := by
    rw [text, String.toList_append]
    rfl
  have hchars : ∀ c ∈ s.toList, isAddressChar c = true := fun c hc =>
    isAddressChar_of_mem_text plain c (htext ▸ List.mem_cons_of_mem '/' hc)
  have hfollow : continuePath "http" [""] names = names := by
    have hroot := follow_eq plain []
    unfold continuePath
    split
    · exact hroot
    · exact hroot
  have hspecial : isSpecial "http" = true := by decide
  have hsettle : settle "http" names = names := if_pos (by decide)
  simp only [Url.join, hostAddress, clean_eq hchars, splitTail_eq _ hchars, hspecial,
    pathNames_eq plain htext, hfollow, hsettle]

end Addresses

end MapStandin.Url
