import Reassembly.Endpoint.Text

/-!
# Endpoints read back from their texts

`parse?_text`: the socket of every endpoint is read back from its text, so two
endpoints have one text just if they have one socket (`text_eq_iff`).  Numbers are
read back digit by digit; the separators of a text occur in none of its numbers,
so a text falls into its parts in one way only.  An address with a compressed run of zero groups
is read back whichever run was chosen.
-/

set_option autoImplicit false

namespace Reassembly

/-! ## Numbers -/

theorem decimal_ne_nil (n : Nat) : decimal n ≠ [] :=
  Nat.toDigits_ne_nil

theorem isDigit_of_mem_decimal {c : Char} {n : Nat} (member : c ∈ decimal n) :
    c.isDigit = true :=
  Nat.isDigit_of_mem_toDigits (by decide) (by decide) member

theorem notMem_decimal {c : Char} (other : c.isDigit = false) (n : Nat) : c ∉ decimal n := by
  intro member
  rw [isDigit_of_mem_decimal member] at other
  exact Bool.noConfusion other

theorem decimal?_decimal {bound n : Nat} (within : n ≤ bound) :
    decimal? bound (decimal n) = some n := by
  have digits : (decimal n).all Char.isDigit = true :=
    List.all_eq_true.mpr fun c member => isDigit_of_mem_decimal member
  have value : Nat.ofDigitChars 10 (decimal n) 0 = n := Nat.ofDigitChars_ten_toDigits
  simp only [decimal?, value]
  exact if_pos ⟨decimal_ne_nil n, digits, within⟩

theorem hexadecimal_ne_nil (n : Nat) : hexadecimal n ≠ [] :=
  Nat.toDigits_ne_nil

theorem hexValue?_digitChar (digit : Nat) (below : digit < 16) :
    Bytes.hexValue? (Nat.digitChar digit) = some digit := by
  revert digit
  decide

theorem hexValue?_of_mem_hexadecimal {c : Char} {n : Nat} (member : c ∈ hexadecimal n) :
    ∃ digit, Bytes.hexValue? c = some digit := by
  induction n using Nat.strongRecOn with
  | ind n ih =>
      unfold hexadecimal at member
      by_cases small : n < 16
      · rw [Nat.toDigits_of_lt_base small, List.mem_singleton] at member
        exact ⟨n, member ▸ hexValue?_digitChar n small⟩
      · have step := Nat.toDigits_of_base_le (by decide : 1 < 16) (Nat.le_of_not_lt small)
        rw [step, List.mem_append, List.mem_singleton] at member
        cases member with
        | inl front => exact ih (n / 16) (by omega) front
        | inr last =>
            exact ⟨n % 16, last ▸ hexValue?_digitChar (n % 16) (by omega)⟩

theorem notMem_hexadecimal {c : Char} (other : Bytes.hexValue? c = none) (n : Nat) :
    c ∉ hexadecimal n := by
  intro member
  obtain ⟨digit, value⟩ := hexValue?_of_mem_hexadecimal member
  rw [other] at value
  cases value

theorem hexadecimal?_hexadecimal (n : Nat) : hexadecimal? (hexadecimal n) = some n := by
  have value : (hexadecimal n).foldl
      (fun value c => value.bind fun v => (Bytes.hexValue? c).map (16 * v + ·)) (some 0) =
        some n := by
    induction n using Nat.strongRecOn with
    | ind n ih =>
        unfold hexadecimal
        by_cases small : n < 16
        · rw [Nat.toDigits_of_lt_base small]
          simp [hexValue?_digitChar n small]
        · have front := ih (n / 16) (by omega)
          unfold hexadecimal at front
          rw [Nat.toDigits_of_base_le (by decide) (Nat.le_of_not_lt small), List.foldl_append,
            front]
          have last := hexValue?_digitChar (n % 16) (by omega)
          simp [last]
          omega
  simp only [hexadecimal?, if_neg (hexadecimal_ne_nil n)]
  exact value

/-! ## Parts between separators -/

theorem cut?_append {separator : Char} (before after : List Char)
    (absent : separator ∉ before) :
    cut? separator (before ++ separator :: after) = some (before, after) := by
  induction before with
  | nil => simp [cut?]
  | cons c rest ih =>
      obtain ⟨differs, absent⟩ := not_or.mp (mt List.mem_cons.mpr absent)
      have later := ih absent
      simp [cut?, Ne.symm differs, later]

theorem cut?_eq_none {separator : Char} (text : List Char) (absent : separator ∉ text) :
    cut? separator text = none := by
  induction text with
  | nil => rfl
  | cons c rest ih =>
      obtain ⟨differs, absent⟩ := not_or.mp (mt List.mem_cons.mpr absent)
      simp [cut?, Ne.symm differs, ih absent]

theorem pieces_of_notMem {separator : Char} (text : List Char) (absent : separator ∉ text) :
    pieces separator text = [text] := by
  induction text with
  | nil => rfl
  | cons c rest ih =>
      obtain ⟨differs, absent⟩ := not_or.mp (mt List.mem_cons.mpr absent)
      simp [pieces, Ne.symm differs, ih absent]

theorem pieces_append {separator : Char} (before after : List Char)
    (absent : separator ∉ before) :
    pieces separator (before ++ separator :: after) = before :: pieces separator after := by
  induction before with
  | nil => simp [pieces]
  | cons c rest ih =>
      obtain ⟨differs, absent⟩ := not_or.mp (mt List.mem_cons.mpr absent)
      simp [pieces, Ne.symm differs, ih absent]

/-- Parts that are joined by a separator which none of them contains are found again. -/
theorem pieces_intercalate {separator : Char} (part : List Char) (parts : List (List Char))
    (absent : ∀ text ∈ part :: parts, separator ∉ text) :
    pieces separator ([separator].intercalate (part :: parts)) = part :: parts := by
  induction parts generalizing part with
  | nil =>
      rw [List.intercalate_singleton]
      exact pieces_of_notMem part (absent part (by simp))
  | cons next others ih =>
      have later := ih next fun text member => absent text (List.mem_cons_of_mem part member)
      have first : separator ∉ part := absent part (by simp)
      rw [List.intercalate_cons_cons, List.append_assoc, List.singleton_append,
        pieces_append part _ first, later]

theorem mem_intercalate {separator c : Char} {parts : List (List Char)}
    (member : c ∈ [separator].intercalate parts) :
    c = separator ∨ ∃ part ∈ parts, c ∈ part := by
  induction parts with
  | nil => cases member
  | cons part others ih =>
      cases others with
      | nil =>
          rw [List.intercalate_singleton] at member
          exact Or.inr ⟨part, by simp, member⟩
      | cons next others =>
          rw [List.intercalate_cons_cons, List.append_assoc] at member
          simp only [List.mem_append, List.mem_singleton] at member
          rcases member with here | here | later
          · exact Or.inr ⟨part, by simp, here⟩
          · exact Or.inl here
          · cases ih later with
            | inl same => exact Or.inl same
            | inr found =>
                obtain ⟨text, among, inside⟩ := found
                exact Or.inr ⟨text, List.mem_cons_of_mem part among, inside⟩

/-! ## Addresses -/

namespace Ipv4

theorem mem_chars {c : Char} {address : Ipv4} (member : c ∈ address.chars) :
    c = '.' ∨ c.isDigit = true := by
  cases mem_intercalate member with
  | inl same => exact Or.inl same
  | inr found =>
      obtain ⟨part, among, inside⟩ := found
      obtain ⟨octet, -, rfl⟩ := List.mem_map.mp among
      exact Or.inr (isDigit_of_mem_decimal inside)

theorem notMem_chars {c : Char} (address : Ipv4) (other : c ≠ '.' ∧ c.isDigit = false) :
    c ∉ address.chars := by
  obtain ⟨noDot, noDigit⟩ := other
  intro member
  cases mem_chars member with
  | inl same => exact noDot same
  | inr digit =>
      rw [digit] at noDigit
      cases noDigit

theorem parse?_chars (address : Ipv4) : parse? address.chars = some address := by
  obtain ⟨⟨⟨octets⟩, size⟩⟩ := address
  match octets, size with
  | [a, b, c, d], size =>
      have absent : ∀ text ∈ [decimal a.toNat, decimal b.toNat, decimal c.toNat, decimal d.toNat],
          '.' ∉ text := by
        simp [notMem_decimal]
      have parts := pieces_intercalate _ _ absent
      have read : ∀ octet : UInt8, decimal? 255 (decimal octet.toNat) = some octet.toNat := by
        intro octet
        have bound := octet.toNat_lt
        exact decimal?_decimal (by omega)
      simp only [parse?, chars, Vector.toList_mk, List.map_cons, List.map_nil]
      rw [parts]
      simp [read]

theorem parse?_eq_none {text : List Char} (absent : '.' ∉ text) : parse? text = none := by
  simp [parse?, pieces_of_notMem text absent]

end Ipv4

namespace Ipv6

theorem groupChars_cons (group next : UInt16) (others : List UInt16) :
    groupChars (group :: next :: others) =
      hexadecimal group.toNat ++ ':' :: groupChars (next :: others) := by
  simp only [groupChars, List.map_cons, List.intercalate_cons_cons, List.append_assoc,
    List.singleton_append]

theorem mem_groupChars {c : Char} {groups : List UInt16} (member : c ∈ groupChars groups) :
    c = ':' ∨ ∃ digit, Bytes.hexValue? c = some digit := by
  cases mem_intercalate member with
  | inl same => exact Or.inl same
  | inr found =>
      obtain ⟨part, among, inside⟩ := found
      obtain ⟨group, -, rfl⟩ := List.mem_map.mp among
      exact Or.inr (hexValue?_of_mem_hexadecimal inside)

theorem gap?_cons {c : Char} (noColon : c ≠ ':') (rest : List Char) :
    gap? (c :: rest) = (gap? rest).map fun parts => (c :: parts.1, parts.2) := by
  cases rest <;> simp [gap?, noColon]

theorem gap?_colon_cons {c : Char} (noColon : c ≠ ':') (rest : List Char) :
    gap? (':' :: c :: rest) = (gap? (c :: rest)).map fun parts => (':' :: parts.1, parts.2) := by
  simp [gap?, noColon]

theorem gap?_append (before rest : List Char) (absent : ':' ∉ before) :
    gap? (before ++ rest) = (gap? rest).map fun parts => (before ++ parts.1, parts.2) := by
  induction before with
  | nil => simp
  | cons c before ih =>
      obtain ⟨differs, absent⟩ := not_or.mp (mt List.mem_cons.mpr absent)
      rw [List.cons_append, gap?_cons (Ne.symm differs), ih absent, Option.map_map]
      rfl

theorem gap?_groupChars_append (groups : List UInt16) (rest : List Char) :
    gap? (groupChars groups ++ rest) =
      (gap? rest).map fun parts => (groupChars groups ++ parts.1, parts.2) := by
  induction groups with
  | nil => simp [groupChars]
  | cons group others ih =>
      have absent : ':' ∉ hexadecimal group.toNat := notMem_hexadecimal (by decide) group.toNat
      cases others with
      | nil => simpa [groupChars] using gap?_append (hexadecimal group.toNat) rest absent
      | cons next others =>
          -- the next group begins with a digit, so the colon before it stands alone
          obtain ⟨c, digits, shape⟩ := List.exists_cons_of_ne_nil (hexadecimal_ne_nil next.toNat)
          have noColon : c ≠ ':' := by
            intro same
            have first : c ∈ hexadecimal next.toNat := by simp [shape]
            exact notMem_hexadecimal (by decide) next.toNat (same ▸ first)
          have start : ∃ tail, groupChars (next :: others) ++ rest = c :: tail := by
            cases others with
            | nil => exact ⟨digits ++ rest, by simp [groupChars, shape]⟩
            | cons third others =>
                exact ⟨digits ++ ':' :: groupChars (third :: others) ++ rest,
                  by simp [groupChars_cons, shape]⟩
          obtain ⟨tail, start⟩ := start
          have single := gap?_colon_cons noColon tail
          rw [← start, ih, Option.map_map] at single
          rw [groupChars_cons, List.append_assoc, gap?_append _ _ absent, List.cons_append, single,
            Option.map_map]
          simp [Function.comp_def]

theorem gap?_groupChars (groups : List UInt16) : gap? (groupChars groups) = none := by
  simpa [gap?] using gap?_groupChars_append groups []

theorem ofPieces?_hexadecimal (groups : List UInt16) :
    ofPieces? (groups.map fun group => hexadecimal group.toNat) = some groups := by
  induction groups with
  | nil => rfl
  | cons group others ih =>
      have read : (hexadecimal? (hexadecimal group.toNat)).map UInt16.ofNat = some group := by
        simp [hexadecimal?_hexadecimal]
      cases others with
      | nil =>
          have noDot : '.' ∉ hexadecimal group.toNat := notMem_hexadecimal (by decide) group.toNat
          simp [ofPieces?, Ipv4.parse?_eq_none noDot, hexadecimal?_hexadecimal]
      | cons next others =>
          simp only [List.map_cons] at ih
          simp [ofPieces?, hexadecimal?_hexadecimal, ih]

theorem groups?_groupChars (groups : List UInt16) : groups? (groupChars groups) = some groups := by
  cases groups with
  | nil => rfl
  | cons group others =>
      have absent : ∀ text ∈ (group :: others).map fun group => hexadecimal group.toNat,
          ':' ∉ text := by
        intro text member
        obtain ⟨value, -, rfl⟩ := List.mem_map.mp member
        exact notMem_hexadecimal (by decide) value.toNat
      have parts : pieces ':' (groupChars (group :: others)) =
          (group :: others).map fun group => hexadecimal group.toNat :=
        pieces_intercalate _ _ absent
      have filled : groupChars (group :: others) ≠ [] := by
        intro empty
        rw [empty] at parts
        simp [pieces, (hexadecimal_ne_nil _).symm] at parts
      rw [groups?, if_neg filled, parts]
      exact ofPieces?_hexadecimal (group :: others)

theorem ofGroups?_toList (address : Ipv6) : ofGroups? address.groups.toList = some address := by
  obtain ⟨⟨groups, size⟩⟩ := address
  simp [ofGroups?, size]

theorem eq_take_append_run (groups : List UInt16) (start : Nat) :
    groups.take start ++ List.replicate (zeroRun groups start) 0 ++
      groups.drop (start + zeroRun groups start) = groups := by
  have zeros : (groups.drop start).takeWhile (· == 0) =
      List.replicate (zeroRun groups start) 0 := by
    apply List.eq_replicate_iff.mpr
    refine ⟨rfl, fun group member => ?_⟩
    simpa using List.all_eq_true.mp List.all_takeWhile group member
  have behind : (groups.drop start).dropWhile (· == 0) =
      groups.drop (start + zeroRun groups start) := by
    have split := List.takeWhile_append_dropWhile (p := (· == 0)) (l := groups.drop start)
    have cut := congrArg (List.drop (zeroRun groups start)) split
    rw [List.drop_drop, zeroRun, List.drop_left] at cut
    rw [zeroRun]
    exact cut
  calc groups.take start ++ List.replicate (zeroRun groups start) 0 ++
        groups.drop (start + zeroRun groups start)
      = groups.take start ++ (groups.drop start).takeWhile (· == 0) ++
          (groups.drop start).dropWhile (· == 0) := by rw [zeros, behind]
    _ = groups.take start ++ groups.drop start := by
        rw [List.append_assoc, List.takeWhile_append_dropWhile]
    _ = groups := List.take_append_drop start groups

theorem parse?_gap (left right : List UInt16) :
    parse? (groupChars left ++ ':' :: ':' :: groupChars right) =
      ofGroups? (left ++ List.replicate (8 - left.length - right.length) 0 ++ right) := by
  have parts : gap? (groupChars left ++ ':' :: ':' :: groupChars right) =
      some (groupChars left, groupChars right) := by
    rw [gap?_groupChars_append]
    simp [gap?]
  simp only [parse?, parts, groups?_groupChars]

theorem parse?_compressed (address : Ipv6) :
    parse? (compressed address.groups.toList) = some address := by
  have size : address.groups.toList.length = 8 := address.groups.size_toArray
  have whole := ofGroups?_toList address
  unfold compressed
  generalize longestZeroRun address.groups.toList = start
  generalize address.groups.toList = groups at size whole
  simp only
  split
  · have joined := eq_take_append_run groups start
    have lengths := congrArg List.length joined
    simp only [List.length_append, List.length_replicate] at lengths
    have missing : 8 - (groups.take start).length -
        (groups.drop (start + zeroRun groups start)).length = zeroRun groups start := by omega
    rw [List.append_assoc, List.cons_append, List.cons_append, List.nil_append, parse?_gap,
      missing, joined]
    exact whole
  · simp only [parse?, gap?_groupChars, groups?_groupChars, Option.bind_some]
    exact whole

/-- An IPv4-mapped address is five zero groups, `ffff`, and the two words of the
address that it embeds. -/
theorem groups_of_mapped? {address : Ipv6} {embedded : Ipv4}
    (mapped : address.mapped? = some embedded) :
    ∃ a b c d, embedded = ⟨#v[a, b, c, d]⟩ ∧
      address.groups.toList = [0, 0, 0, 0, 0, 0xffff, Bytes.word16 a b, Bytes.word16 c d] := by
  unfold mapped? at mapped
  split at mapped
  · rename_i high low shape
    cases mapped
    refine ⟨_, _, _, _, rfl, ?_⟩
    rw [shape, Bytes.word16_ofWord16, Bytes.word16_ofWord16]
  · cases mapped

theorem parse?_mapped {address : Ipv6} {embedded : Ipv4}
    (mapped : address.mapped? = some embedded) :
    parse? ([':', ':', 'f', 'f', 'f', 'f', ':'] ++ embedded.chars) = some address := by
  obtain ⟨a, b, c, d, rfl, shape⟩ := groups_of_mapped? mapped
  have noColon : ':' ∉ Ipv4.chars ⟨#v[a, b, c, d]⟩ := Ipv4.notMem_chars _ (by decide)
  have parts : pieces ':' ('f' :: 'f' :: 'f' :: 'f' :: ':' :: Ipv4.chars ⟨#v[a, b, c, d]⟩) =
      [['f', 'f', 'f', 'f'], Ipv4.chars ⟨#v[a, b, c, d]⟩] := by
    have marker : ':' ∉ ['f', 'f', 'f', 'f'] := by decide
    have split := pieces_append _ (Ipv4.chars ⟨#v[a, b, c, d]⟩) marker
    rw [pieces_of_notMem _ noColon] at split
    exact split
  have word : hexadecimal? ['f', 'f', 'f', 'f'] = some 65535 := by decide
  have tail : groups? ('f' :: 'f' :: 'f' :: 'f' :: ':' :: Ipv4.chars ⟨#v[a, b, c, d]⟩) =
      some [0xffff, Bytes.word16 a b, Bytes.word16 c d] := by
    simp [groups?, parts, ofPieces?, word, Ipv4.parse?_chars, Ipv4.bytes]
  have start : groups? [] = some [] := rfl
  have whole := ofGroups?_toList address
  rw [shape] at whole
  simp only [parse?, List.cons_append, List.nil_append, gap?, start, tail]
  exact whole

theorem parse?_chars (address : Ipv6) : parse? address.chars = some address := by
  cases mapped : address.mapped? with
  | none => simpa [chars, mapped] using parse?_compressed address
  | some embedded => simpa [chars, mapped] using parse?_mapped mapped

theorem mem_chars {c : Char} {address : Ipv6} (member : c ∈ address.chars) :
    c = ':' ∨ c = '.' ∨ c.isDigit = true ∨ ∃ digit, Bytes.hexValue? c = some digit := by
  have grouped : ∀ groups : List UInt16, c ∈ groupChars groups →
      c = ':' ∨ c = '.' ∨ c.isDigit = true ∨ ∃ digit, Bytes.hexValue? c = some digit := by
    intro groups inside
    cases mem_groupChars inside with
    | inl same => exact Or.inl same
    | inr found => exact Or.inr (Or.inr (Or.inr found))
  unfold chars at member
  split at member
  · rename_i embedded _
    rcases List.mem_append.mp member with front | inside
    · simp only [List.mem_cons, List.not_mem_nil, or_false] at front
      rcases front with rfl | rfl | rfl | rfl | rfl | rfl | rfl <;>
        first
          | exact Or.inl rfl
          | exact Or.inr (Or.inr (Or.inr ⟨15, by decide⟩))
    · rcases Ipv4.mem_chars inside with same | digit
      · exact Or.inr (Or.inl same)
      · exact Or.inr (Or.inr (Or.inl digit))
  · unfold compressed at member
    simp only at member
    split at member
    · rw [List.append_assoc, List.mem_append, List.mem_append] at member
      rcases member with before | gap | behind
      · exact grouped _ before
      · have same : c = ':' := by simpa using gap
        exact Or.inl same
      · exact grouped _ behind
    · exact grouped _ member

theorem notMem_chars {c : Char} (address : Ipv6)
    (other : c ≠ ':' ∧ c ≠ '.' ∧ c.isDigit = false ∧ Bytes.hexValue? c = none) :
    c ∉ address.chars := by
  obtain ⟨noColon, noDot, noDigit, noHexDigit⟩ := other
  intro member
  rcases mem_chars member with same | same | digit | ⟨digit, value⟩
  · exact noColon same
  · exact noDot same
  · rw [digit] at noDigit
    cases noDigit
  · rw [noHexDigit] at value
    cases value

end Ipv6

namespace Endpoint

theorem text_toList (endpoint : Endpoint) : endpoint.text.toList = endpoint.chars :=
  String.toList_ofList

theorem port_read (port : UInt16) : decimal? 65535 (decimal port.toNat) = some port.toNat := by
  have bound := port.toNat_lt
  exact decimal?_decimal (by omega)

theorem scope_read (scope : UInt32) :
    decimal? 4294967295 (decimal scope.toNat) = some scope.toNat := by
  have bound := scope.toNat_lt
  exact decimal?_decimal (by omega)

theorem parseV4?_chars (address : Ipv4) (port : UInt16) :
    parseV4? (address.chars ++ ':' :: decimal port.toNat) = some (.v4 address port) := by
  have noColon : ':' ∉ address.chars := Ipv4.notMem_chars address (by decide)
  simp [parseV4?, cut?_append _ _ noColon, Ipv4.parse?_chars, port_read]

theorem notMem_scopeChars {c : Char} (other : c ≠ '%' ∧ c.isDigit = false) (scope : UInt32) :
    c ∉ scopeChars scope := by
  obtain ⟨noPercent, noDigit⟩ := other
  unfold scopeChars
  split <;> simp [noPercent, notMem_decimal noDigit]

theorem parseV6?_chars (address : Ipv6) (scope : UInt32) (port : UInt16) :
    parseV6? ((address.chars ++ scopeChars scope) ++ ']' :: ':' :: decimal port.toNat) =
      some (.v6 address 0 scope port) := by
  have inAddress : ']' ∉ address.chars := Ipv6.notMem_chars address (by decide)
  have inScope : ']' ∉ scopeChars scope := notMem_scopeChars (by decide) scope
  have inside : ']' ∉ address.chars ++ scopeChars scope := by simp [inAddress, inScope]
  have noPercent : '%' ∉ address.chars := Ipv6.notMem_chars address (by decide)
  rw [parseV6?, cut?_append _ _ inside]
  by_cases unscoped : scope = 0
  · subst unscoped
    simp [scopeChars, cut?_eq_none _ noPercent, Ipv6.parse?_chars, port_read]
  · simp [scopeChars, unscoped, cut?_append _ _ noPercent, Ipv6.parse?_chars, port_read,
      scope_read]

theorem text_socket (endpoint : Endpoint) : endpoint.socket.text = endpoint.text := by
  cases endpoint <;> rfl

/-- Of an endpoint its text tells all but the flow information. -/
theorem parse?_text (endpoint : Endpoint) : parse? endpoint.text = some endpoint.socket := by
  simp only [parse?, text_toList]
  refine Option.filter_eq_some_iff.mpr ⟨?_, by simp [text_socket]⟩
  cases endpoint with
  | v4 address port =>
      have unbracketed : '[' ∉ address.chars := Ipv4.notMem_chars address (by decide)
      simp only [chars]
      split
      · rename_i rest shape
        have first : '[' ∈ address.chars ++ ':' :: decimal port.toNat := by simp [shape]
        simp [unbracketed, notMem_decimal] at first
      · exact parseV4?_chars address port
  | v6 address flowInfo scope port => simpa [chars, socket] using parseV6?_chars address scope port

theorem text_eq_iff {first second : Endpoint} :
    first.text = second.text ↔ first.socket = second.socket := by
  constructor
  · intro same
    have read := congrArg parse? same
    rw [parse?_text, parse?_text] at read
    exact Option.some.inj read
  · intro same
    rw [← text_socket first, ← text_socket second, same]

theorem equals_notMem_chars (endpoint : Endpoint) : '=' ∉ endpoint.chars := by
  cases endpoint with
  | v4 address port =>
      have host : '=' ∉ address.chars := Ipv4.notMem_chars address (by decide)
      simp [chars, host, notMem_decimal]
  | v6 address flowInfo scope port =>
      have host : '=' ∉ address.chars := Ipv6.notMem_chars address (by decide)
      have link : '=' ∉ scopeChars scope := notMem_scopeChars (by decide) scope
      simp [chars, host, link, notMem_decimal]

end Endpoint

end Reassembly
