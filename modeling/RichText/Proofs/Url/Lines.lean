import RichText.Proofs.Url.Action

/-!
# Addresses on one line

Main statements: no URL that is read from a text has a newline in it (`newline_not_mem_text`), and no
button leads to an address with one (`newline_not_mem_address?`).
-/
namespace RichText

/-! ## Pieces of text -/

namespace Text

theorem digitChar_ne_newline {n : Nat} (small : n < 16) : n.digitChar ≠ '\n' :=
  (by decide : ∀ d : Fin 16, d.val.digitChar ≠ '\n') ⟨n, small⟩

theorem newline_not_mem_toDigits {base : Nat} (more : 1 < base) (le : base ≤ 16) (n : Nat) :
    '\n' ∉ Nat.toDigits base n := by
  have digit {n : Nat} (small : n < base) : '\n' ∉ [n.digitChar] := by
    rw [List.mem_singleton]
    exact (digitChar_ne_newline (Nat.lt_of_lt_of_le small le)).symm
  induction n using Nat.strongRecOn with
  | ind n ih =>
      by_cases small : n < base
      · rw [Nat.toDigits_of_lt_base small]
        exact digit small
      · have positive : 0 < base := Nat.lt_of_succ_lt more
        have large : base ≤ n := Nat.le_of_not_lt small
        rw [Nat.toDigits_of_base_le more large, List.mem_append, not_or]
        exact ⟨ih _ (Nat.div_lt_self (Nat.lt_of_lt_of_le positive large) more),
          digit (Nat.mod_lt n positive)⟩

theorem not_mem_intercalate {c : Char} {separator : List Char} {pieces : List (List Char)}
    (between : c ∉ separator) (all : ∀ piece ∈ pieces, c ∉ piece) :
    c ∉ separator.intercalate pieces := by
  induction pieces with
  | nil => exact List.not_mem_nil
  | cons first rest ih =>
      obtain ⟨start, others⟩ := List.forall_mem_cons.mp all
      cases rest with
      | nil => simpa using start
      | cons second rest =>
          rw [List.intercalate_cons_cons, List.mem_append, List.mem_append, not_or, not_or]
          exact ⟨⟨start, between⟩, ih others⟩

end Text

namespace Url

theorem newline_not_mem_percentByte (b : UInt8) : '\n' ∉ percentByte b :=
  Text.forall_byte (P := fun b => '\n' ∉ percentByte b) (by decide +kernel) b

theorem newline_not_mem_percentEncode {set : EncodeSet} (encodes : set '\n' = true)
    (cs : List Char) : '\n' ∉ percentEncode set cs := by
  unfold percentEncode
  rw [List.mem_flatMap]
  rintro ⟨c, -, member⟩
  unfold percentChar at member
  split at member
  · obtain ⟨b, -, member⟩ := List.mem_flatMap.mp member
    exact newline_not_mem_percentByte b member
  · rename_i plain
    obtain rfl := List.mem_singleton.mp member
    exact plain (.inl encodes)

/-! ## Hosts -/

theorem newline_not_mem_ipv4 (address : Nat) : '\n' ∉ Ipv4.write address := by
  apply Text.not_mem_intercalate (by decide)
  rw [List.forall_mem_map]
  exact fun shift _ => Text.newline_not_mem_toDigits (by decide) (by decide) _

theorem newline_not_mem_groups (groups : List Nat) : '\n' ∉ Ipv6.writeGroups groups := by
  apply Text.not_mem_intercalate (by decide)
  rw [List.forall_mem_map]
  exact fun group _ => Text.newline_not_mem_toDigits (by decide) (by decide) group

theorem newline_not_mem_ipv6 (groups : List Nat) : '\n' ∉ Ipv6.write groups := by
  unfold Ipv6.write
  dsimp only
  split
  · exact newline_not_mem_groups groups
  · simp [newline_not_mem_groups]

theorem newline_not_mem_bracketed {cs host : List Char} (read : Host.bracketed? cs = some host) :
    '\n' ∉ host := by
  unfold Host.bracketed? at read
  split at read
  · cases read
  · obtain ⟨groups, -, made⟩ := Option.bind_eq_some_iff.mp read
    cases made
    simp [newline_not_mem_ipv6]

theorem newline_not_mem_domain {bytes : List UInt8} {name : List Char}
    (read : Domain.toAscii? bytes = some name) : '\n' ∉ name := by
  unfold Domain.toAscii? at read
  obtain ⟨text, -, read⟩ := Option.bind_eq_some_iff.mp read
  obtain ⟨mapped, -, read⟩ := Option.bind_eq_some_iff.mp read
  obtain ⟨labels, -, read⟩ := Option.bind_eq_some_iff.mp read
  have allowed {ascii : List Char}
      (read : (if ascii.any Domain.isForbidden then none else some ascii) = some name) :
      '\n' ∉ name := by
    split at read
    · cases read
    · rename_i allowed
      cases read
      exact fun member => allowed (List.any_eq_true.mpr ⟨'\n', member, rfl⟩)
  dsimp only at read
  split at read
  · split at read
    · cases read
    · exact allowed read
  · exact allowed read

theorem newline_not_mem_host {cs host : List Char} (read : Host.parse? cs = some host) :
    '\n' ∉ host := by
  unfold Host.parse? at read
  split at read
  · exact newline_not_mem_bracketed read
  · obtain ⟨name, ascii, read⟩ := Option.bind_eq_some_iff.mp read
    split at read
    · cases read
    · split at read
      · obtain ⟨address, -, rfl⟩ := Option.map_eq_some_iff.mp read
        exact newline_not_mem_ipv4 address
      · cases read
        exact newline_not_mem_domain ascii

theorem newline_not_mem_foreign {cs host : List Char} (read : Host.foreign? cs = some host) :
    '\n' ∉ host := by
  unfold Host.foreign? at read
  split at read
  · exact newline_not_mem_bracketed read
  · split at read
    · cases read
    · cases read
      exact newline_not_mem_percentEncode rfl cs

/-! ## Authorities -/

theorem newline_not_mem_userinfo (userinfo : List Char) : '\n' ∉ writeUserinfo userinfo := by
  have encoded (cs : List Char) : '\n' ∉ percentEncode EncodeSet.userinfo cs :=
    newline_not_mem_percentEncode rfl cs
  have ended {written : List Char} (clean : '\n' ∉ written) :
      '\n' ∉ if written.isEmpty then [] else written ++ ['@'] := by
    split <;> simp [clean]
  unfold writeUserinfo
  apply ended
  split <;> simp [encoded]

theorem newline_not_mem_port {implied : Option Nat} {digits port : List Char}
    (read : writePort? implied digits = some port) : '\n' ∉ port := by
  unfold writePort? at read
  split at read
  · cases read
  · dsimp only at read
    split at read
    · cases read
    · split at read
      · cases read
        exact List.not_mem_nil
      · cases read
        have digits (n : Nat) : '\n' ∉ Nat.toDigits 10 n :=
          Text.newline_not_mem_toDigits (by decide) (by decide) n
        simp [Text.toDigits, digits]

theorem newline_not_mem_authority {special : Bool} {implied : Option Nat} {a : Authority}
    {followed : Bool} {authority : List Char}
    (read : a.write? special implied followed = some authority) : '\n' ∉ authority := by
  unfold Authority.write? at read
  dsimp only at read
  split at read
  · split at read
    · cases read
    · cases read
      exact List.not_mem_nil
  · have written {host : Option (List Char)} (clean : ∀ h, host = some h → '\n' ∉ h)
        (read : (host.bind fun h => (writePort? implied (a.port.drop 1)).bind fun port =>
          some ((a.userinfo.map writeUserinfo).getD [] ++ h ++ port)) = some authority) :
        '\n' ∉ authority := by
      obtain ⟨host, isHost, read⟩ := Option.bind_eq_some_iff.mp read
      obtain ⟨port, isPort, made⟩ := Option.bind_eq_some_iff.mp read
      have user : '\n' ∉ (a.userinfo.map writeUserinfo).getD [] := by
        cases a.userinfo with
        | none => exact List.not_mem_nil
        | some userinfo => exact newline_not_mem_userinfo userinfo
      cases made
      simp [user, clean host isHost, newline_not_mem_port isPort]
    split at read
    · exact written (fun _ => newline_not_mem_host) read
    · exact written (fun _ => newline_not_mem_foreign) read

/-! ## Paths -/

def Path.Clean (path : Path.Segments) : Prop := ∀ segment ∈ path, '\n' ∉ segment

namespace Path

variable {path : Path.Segments}

theorem Clean.shorten (clean : Path.Clean path) : Path.Clean (Path.shorten path) := by
  cases path with
  | nil => exact clean
  | cons segment rest =>
      rw [Path.shorten]
      split
      · exact clean
      · exact (List.forall_mem_cons.mp clean).2

theorem Clean.push (clean : Path.Clean path) {segment : List Char} (own : '\n' ∉ segment)
    (last : Bool) : Path.Clean (Path.push path segment last) := by
  have close {path : Path.Segments} (clean : Path.Clean path) :
      Path.Clean (if last then [] :: path else path) := by
    split
    · exact List.forall_mem_cons.mpr ⟨List.not_mem_nil, clean⟩
    · exact clean
  unfold Path.push
  dsimp only
  split
  · exact close clean.shorten
  · split
    · exact close clean
    · exact List.forall_mem_cons.mpr ⟨own, clean⟩

theorem Clean.resolve (clean : Path.Clean path) {segments : List (List Char)}
    (all : Path.Clean segments) : Path.Clean (Path.resolve path segments) := by
  fun_induction Path.resolve path segments with
  | case1 => exact clean
  | case2 path segment => exact clean.push (all segment List.mem_cons_self) true
  | case3 path segment rest _ ih =>
      obtain ⟨own, others⟩ := List.forall_mem_cons.mp all
      exact ih (clean.push own false) others

theorem Clean.write (clean : Path.Clean path) : '\n' ∉ Path.write path := by
  unfold Path.write
  rw [List.mem_flatMap]
  rintro ⟨segment, inside, member⟩
  rcases List.mem_cons.mp member with isSlash | member
  · cases isSlash
  · exact clean segment (List.mem_reverse.mp inside) member

end Path

theorem newline_not_mem_path (special : Bool) (cs : List Char) :
    '\n' ∉ Path.parse special cs := by
  have empty : Path.Clean [] := nofun
  refine (empty.resolve ?_).write
  rw [Path.Clean, List.forall_mem_map]
  exact fun segment _ => newline_not_mem_percentEncode rfl segment

namespace FilePath

theorem newline_not_mem_drive {letter : Char} (isAlpha : letter.isAlpha) :
    '\n' ∉ [letter, ':'] := by
  rintro member
  rcases List.mem_cons.mp member with rfl | member
  · cases isAlpha
  · cases List.mem_singleton.mp member

theorem isAlpha_of_drive? {segment : List Char} {letter : Char}
    (isDrive : drive? segment = some letter) : letter.isAlpha := by
  unfold drive? at isDrive
  split at isDrive
  · split at isDrive
    · rename_i alpha
      cases isDrive
      exact alpha.1
    · cases isDrive
  · cases isDrive

theorem isAlpha_of_cutDrive? {segment rest : List Char} {letter : Char}
    (cut : cutDrive? segment = some (letter, rest)) : letter.isAlpha := by
  unfold cutDrive? at cut
  split at cut
  · cases cut
  · split at cut
    · split at cut
      · rename_i alpha
        cases cut
        exact alpha.1
      · cases cut
    · cases cut

theorem clean_push {path : FilePath} (clean : Path.Clean path.segments) (segment : List Char)
    (last : Bool) : Path.Clean (path.push segment last).segments := by
  have encoded (cs : List Char) : '\n' ∉ percentEncode EncodeSet.path cs :=
    newline_not_mem_percentEncode rfl cs
  unfold push
  dsimp only
  split
  · rename_i cut
    refine List.forall_mem_cons.mpr ⟨encoded _, List.forall_mem_singleton.mpr ?_⟩
    exact newline_not_mem_drive (isAlpha_of_cutDrive? cut)
  · rename_i isDrive
    exact List.forall_mem_singleton.mpr (newline_not_mem_drive (isAlpha_of_drive? isDrive))
  · exact clean.push (encoded _) last

theorem clean_resolve {path : FilePath} (clean : Path.Clean path.segments)
    (segments : List (List Char)) : Path.Clean (path.resolve segments).segments := by
  fun_induction resolve path segments with
  | case1 => exact clean
  | case2 path segment => exact clean_push clean segment true
  | case3 path segment rest _ ih => exact ih (clean_push clean segment false)

theorem newline_not_mem_write (cs : List Char) : '\n' ∉ (parse cs).write := by
  have empty : Path.Clean [] := nofun
  have clean : Path.Clean (parse cs).segments := clean_resolve empty _
  unfold write
  rw [List.mem_cons, not_or]
  refine ⟨by decide, fun member => ?_⟩
  exact clean.write ((List.dropWhile_sublist _).mem member)

end FilePath

/-! ## Bodies -/

theorem newline_not_mem_special {implied : Option Nat} {cs body : List Char}
    (read : specialBody? implied cs = some body) : '\n' ∉ body := by
  obtain ⟨authority, isAuthority, made⟩ := Option.bind_eq_some_iff.mp read
  cases made
  simp [newline_not_mem_authority isAuthority, newline_not_mem_path]

theorem newline_not_mem_writeFile {host : List Char} (clean : '\n' ∉ host) (path : List Char) :
    '\n' ∉ writeFile host path := by
  have written := FilePath.newline_not_mem_write path
  unfold writeFile
  dsimp only
  split <;> simp [clean, written]

theorem newline_not_mem_fileHost {cs host : List Char} (read : fileHost? cs = some host) :
    '\n' ∉ host := by
  unfold fileHost? at read
  split at read
  · cases read
    exact List.not_mem_nil
  · obtain ⟨name, isHost, read⟩ := Option.bind_eq_some_iff.mp read
    split at read
    · cases read
      exact List.not_mem_nil
    · cases read
      exact newline_not_mem_host isHost

theorem newline_not_mem_file {cs body : List Char} (read : fileBody? cs = some body) :
    '\n' ∉ body := by
  have hostless (path : List Char) : '\n' ∉ writeFile [] path :=
    newline_not_mem_writeFile List.not_mem_nil path
  unfold fileBody? at read
  split at read
  · cases read
    exact hostless _
  · split at read
    · cases read
      exact hostless _
    · dsimp only at read
      split at read
      · cases read
        exact hostless _
      · obtain ⟨host, isHost, made⟩ := Option.bind_eq_some_iff.mp read
        cases made
        exact newline_not_mem_writeFile (newline_not_mem_fileHost isHost) _

theorem newline_not_mem_foreignBody {cs body : List Char} {followed : Bool}
    (read : foreignBody? cs followed = some body) : '\n' ∉ body := by
  unfold foreignBody? at read
  split at read
  · obtain ⟨authority, isAuthority, made⟩ := Option.bind_eq_some_iff.mp read
    cases made
    have clean := newline_not_mem_authority isAuthority
    dsimp only
    split <;> simp [clean, newline_not_mem_path]
  · rename_i rest _
    have clean := newline_not_mem_path false rest
    split at read
    · rename_i path isPath
      rw [isPath] at clean
      cases read
      simpa using clean
    · cases read
      exact clean
  · cases read
    exact newline_not_mem_percentEncode rfl _

/-! ## Whole addresses -/

theorem toLower_ne_newline {c : Char} (other : c ≠ '\n') : Domain.toLower c ≠ '\n' := by
  unfold Domain.toLower
  split
  · rename_i upper
    have lower : 65 ≤ c.toNat := upper.1
    have higher : c.toNat ≤ 90 := upper.2
    have all : ∀ n : Fin 91, 65 ≤ n.val → Char.ofNat (n.val + 32) ≠ '\n' := by decide
    exact all ⟨c.toNat, by omega⟩ lower
  · exact other

theorem newline_not_mem_scheme {cs scheme rest : List Char}
    (read : splitScheme? cs = some (scheme, rest)) : '\n' ∉ scheme := by
  obtain ⟨⟨spelled, after⟩, -, read⟩ := Option.bind_eq_some_iff.mp read
  dsimp only at read
  split at read
  · rename_i sound
    cases read
    intro member
    obtain ⟨c, inside, isNewline⟩ := List.mem_map.mp member
    refine toLower_ne_newline ?_ isNewline
    rintro rfl
    cases List.all_eq_true.mp sound.2 _ inside
  · cases read

theorem newline_not_mem_ofParts? {scheme body : List Char} {query fragment : Option (List Char)}
    {u : Url} (made : ofParts? scheme body query fragment = some u) (schemeClean : '\n' ∉ scheme)
    (bodyClean : '\n' ∉ body) (queryClean : ∀ q ∈ query, '\n' ∉ q)
    (fragmentClean : ∀ f ∈ fragment, '\n' ∉ f) : '\n' ∉ u.text.toList := by
  unfold ofParts? at made
  dsimp only at made
  split at made
  · cases made
    unfold text
    cases query <;> cases fragment <;> simp_all
  · cases made

theorem newline_not_mem_text {cs : List Char} {u : Url} (parsed : parse? cs = some u) :
    '\n' ∉ u.text.toList := by
  obtain ⟨⟨scheme, rest⟩, isScheme, parsed⟩ := Option.bind_eq_some_iff.mp parsed
  have encoded {set : EncodeSet} (encodes : set '\n' = true) (part : Option (List Char)) :
      ∀ q ∈ part.map fun p => percentEncode set (dropBreaks p), '\n' ∉ q := by
    intro q isPart
    obtain ⟨p, -, rfl⟩ := Option.map_eq_some_iff.mp isPart
    exact newline_not_mem_percentEncode encodes _
  have querySet (special : Bool) :
      (if special then EncodeSet.specialQuery else EncodeSet.query) '\n' = true := by
    cases special <;> rfl
  have whole {body : List Char} (clean : '\n' ∉ body) (special : Bool)
      {query fragment : Option (List Char)}
      (made : ofParts? scheme body
        (query.map fun q => percentEncode
          (if special then EncodeSet.specialQuery else EncodeSet.query) (dropBreaks q))
        (fragment.map fun f => percentEncode EncodeSet.fragment (dropBreaks f)) = some u) :
      '\n' ∉ u.text.toList :=
    newline_not_mem_ofParts? made (newline_not_mem_scheme isScheme) clean
      (encoded (querySet special) query) (encoded rfl fragment)
  dsimp only at parsed
  split at parsed
  · obtain ⟨body, read, made⟩ := Option.bind_eq_some_iff.mp parsed
    exact whole (newline_not_mem_special read) _ made
  · obtain ⟨body, read, made⟩ := Option.bind_eq_some_iff.mp parsed
    exact whole (newline_not_mem_file read) _ made
  · obtain ⟨body, read, made⟩ := Option.bind_eq_some_iff.mp parsed
    exact whole (newline_not_mem_foreignBody read) _ made

/-! ## Queries -/

theorem newline_not_mem_appendPair {u : Url} (clean : '\n' ∉ u.text.toList) (name value : String) :
    '\n' ∉ (u.appendPair name value).text.toList := by
  have pair : '\n' ∉ Form.encodePair name.toList value.toList := by
    have encoded (cs : List Char) : '\n' ∉ Form.encode cs := Form.not_mem_encode rfl cs
    simp [Form.encodePair, encoded]
  unfold text at clean ⊢
  simp only [String.toList_append, List.mem_append, not_or] at clean
  obtain ⟨⟨⟨⟨schemeClean, colon⟩, bodyClean⟩, queryClean⟩, fragmentClean⟩ := clean
  have longer : '\n' ∉ Form.append (u.query.getD "").toList name.toList value.toList := by
    unfold Form.append
    cases asks : u.query with
    | none => simpa using pair
    | some query =>
        rw [asks] at queryClean
        have own : '\n' ∉ query.toList := by simp_all
        split <;> simp [own, pair]
  simp only [String.toList_append, List.mem_append, not_or]
  refine ⟨⟨⟨⟨schemeClean, colon⟩, bodyClean⟩, ?_⟩, fragmentClean⟩
  simpa [appendPair] using longer

end Url

namespace Action

theorem newline_not_mem_page {data : Json.Fields} {u : Url} (opens : page? data = some u) :
    '\n' ∉ u.text.toList := by
  obtain ⟨reference, -, opens⟩ := Option.bind_eq_some_iff.mp opens
  split at opens
  · obtain ⟨page, parsed, opens⟩ := Option.bind_eq_some_iff.mp opens
    have clean := Url.newline_not_mem_text parsed
    split at opens
    · cases opens
      exact Url.newline_not_mem_appendPair clean _ _
    · cases opens
      exact clean
  · cases opens

theorem newline_not_mem_answer (label : String) (data : Json.Fields) :
    '\n' ∉ (answer label data).text.toList := by
  have titled := Url.newline_not_mem_appendPair (u := post) (by decide) "title" label
  unfold answer
  dsimp only
  split
  · exact Url.newline_not_mem_appendPair (Url.newline_not_mem_appendPair titled _ _) _ _
  · exact titled

theorem newline_not_mem_address? {label address : String} {data : Json.Fields}
    (acts : address? label data = some address) : '\n' ∉ address.toList := by
  unfold address? at acts
  split at acts
  · obtain ⟨u, opens, rfl⟩ := Option.map_eq_some_iff.mp acts
    exact newline_not_mem_page opens
  · cases acts
    exact newline_not_mem_answer label data
  · cases acts

end Action

end RichText
