import Mathlib.Data.List.DropRight
import Mathlib.Data.List.TakeWhile
import Workflow.Proofs.Text.Pieces
import Workflow.Proofs.Url.Hosts

/-!
# URLs read back

A URL in normal form is written so that every part ends where another begins: a part holds none of
the characters that it would have to escape, and the signs between the parts are among these; only
an address in square brackets has colons of its own. So it is read back part by part. Only schemes
that are not of the web are looked at, and neither queries nor fragments.

## Main definitions

* `Url.IsNormal` — the parts of a URL are in the form that a text is read into.
* `Url.parse_of_parts` — a text is read from its parts.
* `Url.parse_text` — a URL in normal form is read back from its text.
* `Url.parse_host` — a scheme and a host alone, which may lose its end.
-/

namespace Workflow.Url

/-! ## Cutting a text at a mark -/

section
variable {mark : Char} {before after : List Char}

theorem forall_mem_ne (absent : mark ∉ before) : ∀ c ∈ before, decide (c ≠ mark) = true := by
  intro c member
  simpa using fun same : c = mark => absent (same ▸ member)

theorem splitOnce_append (absent : mark ∉ before) :
    splitOnce mark (before ++ mark :: after) = (before, some after) := by
  have dropped : (before ++ mark :: after).dropWhile (· ≠ mark) = mark :: after := by
    rw [List.dropWhile_append_of_pos (forall_mem_ne absent)]
    simp
  have taken : (before ++ mark :: after).takeWhile (· ≠ mark) = before := by
    rw [List.takeWhile_append_of_pos (forall_mem_ne absent)]
    simp
  unfold splitOnce
  rw [dropped, taken]

theorem splitOnce_of_not_mem (absent : mark ∉ before) : splitOnce mark before = (before, none) := by
  have dropped : before.dropWhile (· ≠ mark) = [] :=
    List.dropWhile_eq_nil_iff.mpr (forall_mem_ne absent)
  unfold splitOnce
  rw [dropped]

theorem splitLast_append (absent : mark ∉ after) :
    splitLast mark (before ++ mark :: after) = (some before, after) := by
  have turned : (before ++ mark :: after).reverse = after.reverse ++ mark :: before.reverse := by
    simp
  rw [splitLast, turned, splitOnce_append (by simpa using absent)]
  simp

theorem splitLast_of_not_mem (absent : mark ∉ after) : splitLast mark after = (none, after) := by
  rw [splitLast, splitOnce_of_not_mem (by simpa using absent)]

end

/-! ## Parts -/

/-- A scheme in normal form. -/
def isScheme (scheme : String) : Bool :=
  match scheme.toList with
  | [] => false
  | c :: name => c.isLower && name.all fun c => c.isLower || c.isDigit

/-- A segment holds what a path may hold, and is none of the two dot segments. -/
structure IsSegment (segment : String) : Prop where
  free : ∀ c ∈ segment.toList, Percent.inPath c = false ∧ c ≠ '/'
  notHere : isSingleDot segment = false
  notUp : isDoubleDot segment = false

/-- The parts of a URL are in the form that a text is read into. -/
structure IsNormal (url : Url) : Prop where
  scheme : isScheme url.scheme = true
  notWeb : isWeb url.scheme = false
  host : IsHost url.host
  username : ∀ c ∈ url.username.toList, Percent.inUserinfo c = false
  password : ∀ c ∈ url.password.toList, Percent.inUserinfo c = false
  port : ∀ port, url.port = some port → port ≤ 65535
  path : ∀ segment ∈ url.path, IsSegment segment
  query : url.query = none
  fragment : url.fragment = none

/-- A text of characters that a part may hold has no character in it that the part may not hold. -/
theorem not_mem_of_barred {isBarred : Char → Bool} {cs : List Char} {c : Char}
    (free : ∀ d ∈ cs, isBarred d = false) (barred : isBarred c = true) : c ∉ cs := by
  intro member
  rw [free c member] at barred
  cases barred

theorem visible_of_inPath {c : Char} (free : Percent.inPath c = false) : 0x20 < c.toNat := by
  have space : c ≠ ' ' := by
    rintro rfl
    cases free
  simp only [Percent.inPath, Percent.inFragment, Bool.or_eq_false_iff] at free
  exact visible_of_not_control free.1.1 space

theorem visible_of_inUserinfo {c : Char} (free : Percent.inUserinfo c = false) :
    0x20 < c.toNat := by
  simp only [Percent.inUserinfo, Bool.or_eq_false_iff] at free
  exact visible_of_inPath free.1

theorem isDropped_of_visible {c : Char} (visible : 0x20 < c.toNat) : isDropped c = false := by
  simp only [isDropped, Bool.or_eq_false_iff, beq_eq_false_iff_ne]
  refine ⟨⟨?_, ?_⟩, ?_⟩ <;> rintro rfl <;> exact absurd visible (by decide)

/-- A control or a space, as the ends of a text may have them. -/
def isEdge (c : Char) : Bool := c.toNat ≤ 0x20

/-- What is read of a text behind visible characters. -/
def keptBehind (cs : List Char) : List Char := (cs.rdropWhile isEdge).filter (! isDropped ·)

theorem isEdge_of_visible {c : Char} (visible : 0x20 < c.toNat) : ¬ isEdge c = true := by
  simpa [isEdge] using visible

/-- A text that starts with visible characters keeps them, and loses at most what is behind. -/
theorem cleaned_append {front : List Char} (some : front ≠ [])
    (visible : ∀ c ∈ front, 0x20 < c.toNat) (back : List Char) :
    cleaned (front ++ back) = front ++ keptBehind back := by
  have starts : (front ++ back).dropWhile isEdge = front ++ back := by
    obtain ⟨c, cs, rfl⟩ := List.exists_cons_of_ne_nil some
    exact List.dropWhile_cons_of_neg (isEdge_of_visible (visible c (by simp)))
  have ends : (front ++ back).rdropWhile isEdge = front ++ back.rdropWhile isEdge := by
    clear starts
    induction back using List.reverseRecOn with
    | nil =>
        rw [List.append_nil, List.rdropWhile_nil, List.append_nil, List.rdropWhile_eq_self_iff]
        exact fun some => isEdge_of_visible (visible _ (List.getLast_mem some))
    | append_singleton back c ih =>
        rw [← List.append_assoc, List.rdropWhile_concat, List.rdropWhile_concat, ih]
        split
        · rfl
        · rw [List.append_assoc]
  have all : front.filter (! isDropped ·) = front :=
    List.filter_eq_self.mpr fun c member => by simp [isDropped_of_visible (visible c member)]
  change (((front ++ back).dropWhile isEdge).rdropWhile isEdge).filter (! isDropped ·) = _
  rw [starts, ends, List.filter_append, all]
  rfl

theorem keptBehind_of_visible {cs : List Char} (visible : ∀ c ∈ cs, 0x20 < c.toNat) :
    keptBehind cs = cs := by
  have ends : cs.rdropWhile isEdge = cs :=
    List.rdropWhile_eq_self_iff.mpr fun some =>
      isEdge_of_visible (visible _ (List.getLast_mem some))
  rw [keptBehind, ends, List.filter_eq_self]
  exact fun c member => by simp [isDropped_of_visible (visible c member)]

/-! ## The parts of a text -/

/-- Whatever is no capital letter is its own small form. -/
theorem toLower_eq_self {c : Char} (small : c.toNat < 0x41 ∨ 0x5A < c.toNat) : c.toLower = c := by
  unfold Char.toLower
  refine dif_neg ?_
  rintro ⟨low, high⟩
  have low : 0x41 ≤ c.toNat := UInt32.le_iff_toNat_le.mp low
  have high : c.toNat ≤ 0x5A := UInt32.le_iff_toNat_le.mp high
  omega

theorem bounds_of_mem_scheme {scheme : String} (normal : isScheme scheme = true) :
    ∀ c ∈ scheme.toList,
      (0x61 ≤ c.toNat ∧ c.toNat ≤ 0x7A) ∨ (0x30 ≤ c.toNat ∧ c.toNat ≤ 0x39) := by
  have lower : ∀ c : Char, c.isLower = true → 0x61 ≤ c.toNat ∧ c.toNat ≤ 0x7A := by
    intro c isLower
    have both : (decide (c.val ≥ 'a'.val) && decide (c.val ≤ 'z'.val)) = true := isLower
    simpa [UInt32.le_iff_toNat_le] using both
  unfold isScheme at normal
  cases spelled : scheme.toList with
  | nil => simp
  | cons c name =>
      simp only [spelled, Bool.and_eq_true, List.all_eq_true, Bool.or_eq_true] at normal
      intro d member
      rcases List.mem_cons.mp member with rfl | member
      · exact .inl (lower d normal.1)
      · exact (normal.2 d member).imp (lower d) Char.isDigit_iff_toNat.mp

/-- A scheme and the signs behind it are visible. -/
theorem visible_scheme {scheme : String} (normal : isScheme scheme = true) :
    ∀ c ∈ scheme.toList ++ [':', '/', '/'], 0x20 < c.toNat := by
  have signs : ∀ c ∈ [':', '/', '/'], 0x20 < c.toNat := Text.forall_mem_of_all (by decide)
  intro c member
  rcases List.mem_append.mp member with member | member
  · have := bounds_of_mem_scheme normal c member
    omega
  · exact signs c member

/-- The characters of a scheme are read as they are, and none of them ends it. -/
theorem scheme?_append {scheme : String} (normal : isScheme scheme = true) (rest : List Char) :
    scheme? (scheme.toList ++ ':' :: rest) = some (scheme, rest) := by
  have bounds := bounds_of_mem_scheme normal
  have colon : ':' ∉ scheme.toList := by
    intro member
    exact absurd (bounds ':' member) (by decide)
  have same : String.ofList (scheme.toList.map Char.toLower) = scheme := by
    have small : ∀ c ∈ scheme.toList, c.toLower = c := fun c member =>
      toLower_eq_self (by have := bounds c member; omega)
    rw [List.map_congr_left small, List.map_id', String.ofList_toList]
  unfold scheme?
  rw [splitOnce_append colon]
  unfold isScheme at normal
  cases spelled : scheme.toList with
  | nil => simp [spelled] at normal
  | cons c name =>
      simp only [spelled, Bool.and_eq_true, List.all_eq_true, Bool.or_eq_true] at normal
      have letter : ∀ c : Char, c.isLower = true → c.isAlpha = true :=
        fun _ lower => (Bool.or_eq_true _ _).mpr (.inr lower)
      have first : c.isAlpha = true := letter c normal.1
      have later : name.all (fun c => c.isAlphanum || c == '+' || c == '-' || c == '.') = true := by
        rw [List.all_eq_true]
        intro d member
        rcases normal.2 d member with lower | digit
        · simp [Char.isAlphanum, letter d lower]
        · simp [Char.isAlphanum, digit]
      rw [spelled] at same
      simp only [first, later, same, Bool.and_self, if_true]

theorem numberIn?_eq_ofDigitChars {ds : List Char} (digits : ∀ d ∈ ds, d.isDigit = true) :
    Host.numberIn? 10 ds = some (Nat.ofDigitChars 10 ds 0) := by
  unfold Host.numberIn?
  generalize 0 = n
  induction ds generalizing n with
  | nil => rfl
  | cons d ds ih =>
      obtain ⟨first, later⟩ := List.forall_mem_cons.mp digits
      have bounds : 0x30 ≤ d.toNat ∧ d.toNat ≤ 0x39 := Char.isDigit_iff_toNat.mp first
      have zero : '0'.toNat = 0x30 := rfl
      have value : Hex.value? d = some (d.toNat - '0'.toNat) := by simp [Hex.value?, first]
      have small : d.toNat - '0'.toNat < 10 := by omega
      rw [List.foldlM_cons, value, Nat.ofDigitChars_cons, Nat.mul_comm 10 n, ← ih later]
      exact congrArg (Option.bind · _) (if_pos small)

theorem port?_toDigits {scheme : String} (notWeb : isWeb scheme = false) {port : Nat}
    (small : port ≤ 65535) : port? scheme (some (Nat.toDigits 10 port)) = some (some port) := by
  have digits : ∀ d ∈ Nat.toDigits 10 port, d.isDigit = true :=
    fun d member => Nat.isDigit_of_mem_toDigits (by decide) (by decide) member
  have read : Host.numberIn? 10 (Nat.toDigits 10 port) = some port := by
    rw [numberIn?_eq_ofDigitChars digits, Nat.ofDigitChars_ten_toDigits]
  have default : defaultPort? scheme = none := by
    simp only [isWeb, Bool.or_eq_false_iff, decide_eq_false_iff_not] at notWeb
    simp [defaultPort?, notWeb]
  have some : (Nat.toDigits 10 port).isEmpty = false := by simp
  simp [port?, some, List.all_eq_true.mpr digits, default, read, show ¬ 65535 < port by omega]

/-- A text that has neither a query nor a fragment is read from its parts. -/
theorem parse_of_parts {s scheme host : String}
    {rest authority path hostPort hostText user : List Char}
    {userinfo password digits : Option (List Char)} {port : Option Nat}
    (isScheme : isScheme scheme = true) (notWeb : isWeb scheme = false)
    (whole : cleaned s.toList = scheme.toList ++ ':' :: rest)
    (noFragment : '#' ∉ rest) (noQuery : '?' ∉ rest)
    (begins : authority? false rest = some (authority, path))
    (parted : splitLast '@' authority = (userinfo, hostPort))
    (named : splitOnce ':' (userinfo.getD []) = (user, password))
    (ends : splitPort false hostPort = (hostText, digits))
    (numeric : ∀ ds, digits = some ds → ∀ d ∈ ds, d.isDigit = true)
    (counts : hostText = [] → userinfo = none ∧ digits = none)
    (reads : (if hostText.isEmpty then some "" else Host.normal? false hostText) = some host)
    (hasPort : port? scheme digits = some port) :
    parse s = some {
      scheme, host, port
      username := String.ofList (Percent.encode Percent.inUserinfo user)
      password := String.ofList (Percent.encode Percent.inUserinfo (password.getD []))
      path := segments false path } := by
  -- no backslash stands between the digits of a port
  have passed : ∀ ds, digits = some ds → ∀ d ∈ ds, decide (d ≠ '\\') = true := by
    intro ds are d member
    have digit := numeric ds are d member
    have : d ≠ '\\' := by
      rintro rfl
      cases digit
    simpa using this
  have kept : digits.map (·.takeWhile (· ≠ '\\')) = digits := by
    cases are : digits with
    | none => rfl
    | some ds => exact congrArg some (List.takeWhile_eq_self_iff.mpr (passed ds are))
  have extra : (digits.getD []).dropWhile (· ≠ '\\') = [] := by
    cases are : digits with
    | none => rfl
    | some ds => exact List.dropWhile_eq_nil_iff.mpr (passed ds are)
  have stays : (hostText.isEmpty && (false || userinfo.isSome || digits.isSome)) = false := by
    cases hostText with
    | nil => simp [counts rfl]
    | cons c cs => rfl
  unfold parse
  rw [whole, scheme?_append isScheme]
  simp only [Option.bind_eq_bind, Option.bind_some]
  rw [splitOnce_of_not_mem noFragment]
  dsimp only
  rw [splitOnce_of_not_mem noQuery]
  simp only [notWeb, begins, Option.bind_some]
  rw [parted]
  dsimp only
  rw [named, ends]
  simp only [kept, extra, stays, hasPort, Bool.false_eq_true, if_false, Option.bind_some,
    Option.map_none]
  by_cases empty : hostText.isEmpty = true
  · rw [if_pos empty] at reads ⊢
    rw [← Option.some.inj reads]
  · rw [if_neg empty] at reads ⊢
    rw [reads, Option.bind_some]

/-! ## The path -/

theorem resolve_of_isSegment {segments : List String}
    (normal : ∀ segment ∈ segments, IsSegment segment) (done : List String) :
    resolve done segments = done ++ segments := by
  induction segments generalizing done with
  | nil => simp [resolve]
  | cons segment rest ih =>
      obtain ⟨first, later⟩ := List.forall_mem_cons.mp normal
      simp [resolve, first.notHere, first.notUp, ih later]

theorem toList_pathText (url : Url) :
    url.pathText.toList = url.path.flatMap fun segment => '/' :: segment.toList := by
  simp [pathText, List.flatMap_map]

theorem flatMap_slash (segment : String) (rest : List String) :
    ((segment :: rest).flatMap fun segment => '/' :: segment.toList) =
      '/' :: Text.joinWith ['/'] ((segment :: rest).map String.toList) := by
  induction rest generalizing segment with
  | nil => simp [Text.joinWith]
  | cons next rest ih =>
      have more : (next :: rest).map String.toList ≠ [] := List.cons_ne_nil _ _
      rw [List.flatMap_cons, ih next, List.map_cons (a := segment), Text.joinWith_cons more]
      simp only [List.cons_append, List.append_assoc, List.nil_append]

/-- The segments of a path are read one by one. -/
theorem segments_pathText {url : Url} (normal : ∀ segment ∈ url.path, IsSegment segment) :
    segments false url.pathText.toList = url.path := by
  rw [toList_pathText]
  cases path : url.path with
  | nil => rfl
  | cons segment rest =>
      rw [path] at normal
      rw [flatMap_slash]
      have same : ∀ cs : List Char, (cs.map fun c =>
          if (c == '/' || (false && c == '\\')) = true then '/' else c) = cs := by
        intro cs
        refine (List.map_congr_left fun c _ => ?_).trans (List.map_id cs)
        by_cases slash : c = '/' <;> simp [slash]
      have cut : Host.splitAt '/' (Text.joinWith ['/'] ((segment :: rest).map String.toList)) =
          (segment :: rest).map String.toList := by
        rw [Host.splitAt_eq_pieces]
        refine Text.pieces_joinWith (by simp) fun cs member inside => ?_
        obtain ⟨part, among, rfl⟩ := List.mem_map.mp member
        exact ((normal part among).free '/' inside).2 rfl
      have escaped : ((segment :: rest).map String.toList).map
          (fun slice => String.ofList (Percent.encode Percent.inPath slice)) = segment :: rest := by
        rw [List.map_map]
        refine (List.map_congr_left fun part among => ?_).trans (List.map_id _)
        have free : ∀ c ∈ part.toList, Percent.inPath c = false :=
          fun c inside => ((normal part among).free c inside).1
        rw [Function.comp_apply, Percent.encode_eq_self free, String.ofList_toList]
        rfl
      change resolve [] ((Host.splitAt '/' (List.map _ _)).map _) = _
      rw [same, cut, escaped]
      exact resolve_of_isSegment normal []

/-! ## The authority -/

/-- Host and port in writing. -/
def hostPort (url : Url) : List Char := url.host.toList ++ url.portText.toList

/-- User name and password in writing, if there is one of them. -/
def userinfo? (url : Url) : Option (List Char) :=
  if url.username = "" ∧ url.password = "" then none
  else some (url.username.toList ++
    if url.password = "" then [] else ':' :: url.password.toList)

/-- User name, password, host and port in writing. -/
def authorityText (url : Url) : List Char := url.userinfoText.toList ++ url.hostPort

theorem toList_userinfoText (url : Url) :
    url.userinfoText.toList = (url.userinfo?.map (· ++ ['@'])).getD [] := by
  unfold userinfoText userinfo?
  split
  · rfl
  · split <;> simp

theorem toList_portText (url : Url) :
    url.portText.toList = match url.port with
      | some port => ':' :: Nat.toDigits 10 port
      | none => [] := by
  unfold portText
  cases url.port with
  | none => rfl
  | some port => simp

section
variable {url : Url} (normal : url.IsNormal)
include normal

theorem splitPort_hostPort :
    splitPort false url.hostPort = (url.host.toList, url.port.map (Nat.toDigits 10)) := by
  rw [hostPort, normal.host.whole, toList_portText]
  cases url.port <;> simp [splitPort]

/-- Host and port are made of what a host may hold, a colon, and digits. -/
theorem forall_mem_hostPort {P : Char → Prop}
    (host : ∀ c : Char, 0x20 < c.toNat → isMark c = false → P c) (colon : P ':')
    (digit : ∀ c : Char, c.isDigit = true → P c) : ∀ c ∈ url.hostPort, P c := by
  intro c member
  rw [hostPort, toList_portText] at member
  rcases List.mem_append.mp member with member | member
  · obtain ⟨visible, mark⟩ := normal.host.free c member
    exact host c visible mark
  · cases port : url.port with
    | none => simp [port] at member
    | some n =>
        simp only [port, List.mem_cons] at member
        rcases member with rfl | member
        · exact colon
        · exact digit c (Nat.isDigit_of_mem_toDigits (by decide) (by decide) member)

/-- User name and password are made of what they may hold, a colon, and the sign behind them. -/
theorem forall_mem_userinfoText {P : Char → Prop}
    (part : ∀ c, Percent.inUserinfo c = false → P c) (colon : P ':') (sign : P '@') :
    ∀ c ∈ url.userinfoText.toList, P c := by
  intro c member
  unfold userinfoText at member
  split at member
  · simp at member
  · rw [String.toList_append, String.toList_append, List.mem_append, List.mem_append] at member
    rcases member with (member | member) | member
    · exact part c (normal.username c member)
    · split at member
      · simp at member
      · rw [String.toList_append, List.mem_append] at member
        rcases member with member | member
        · obtain rfl := List.mem_singleton.mp member
          exact colon
        · exact part c (normal.password c member)
    · obtain rfl := List.mem_singleton.mp member
      exact sign

/-- A path is made of slashes and what a path may hold. -/
theorem forall_mem_pathText {P : Char → Prop} (part : ∀ c, Percent.inPath c = false → P c)
    (slash : P '/') : ∀ c ∈ url.pathText.toList, P c := by
  intro c member
  rw [toList_pathText] at member
  obtain ⟨segment, among, member⟩ := List.mem_flatMap.mp member
  rcases List.mem_cons.mp member with rfl | member
  · exact slash
  · exact part c ((normal.path segment among).free c member).1

theorem splitLast_authority :
    splitLast '@' url.authorityText = (url.userinfo?, url.hostPort) := by
  have absent : '@' ∉ url.hostPort := by
    intro member
    refine forall_mem_hostPort normal (P := (· ≠ '@')) ?_ (by decide) ?_ '@' member rfl
    · rintro _ - mark rfl
      cases mark
    · rintro _ digit rfl
      cases digit
  rw [authorityText, toList_userinfoText]
  cases url.userinfo? with
  | none => exact splitLast_of_not_mem absent
  | some before =>
      have cut : splitLast '@' (before ++ '@' :: url.hostPort) = _ := splitLast_append absent
      simpa using cut

theorem splitOnce_userinfo :
    splitOnce ':' (url.userinfo?.getD []) =
      (url.username.toList, if url.password = "" then none else some url.password.toList) := by
  have absent : ':' ∉ url.username.toList := not_mem_of_barred normal.username (by decide)
  unfold userinfo?
  by_cases none : url.password = ""
  · by_cases nobody : url.username = ""
    · simp [none, nobody, splitOnce]
    · simp [none, nobody, splitOnce_of_not_mem absent]
  · simp [none, splitOnce_append absent]

theorem forall_mem_authorityText {P : Char → Prop}
    (userinfo : ∀ c, Percent.inUserinfo c = false → P c)
    (host : ∀ c : Char, 0x20 < c.toNat → isMark c = false → P c)
    (colon : P ':') (sign : P '@') (digit : ∀ c : Char, c.isDigit = true → P c) :
    ∀ c ∈ url.authorityText, P c := by
  intro c member
  rcases List.mem_append.mp member with member | member
  · exact forall_mem_userinfoText normal userinfo colon sign c member
  · exact forall_mem_hostPort normal host colon digit c member

/-- What stands between the parts behind a scheme and is no colon is not in the authority. -/
theorem not_mem_authorityText {c : Char} (userinfo : Percent.inUserinfo c = true)
    (mark : isMark c = true) (digit : c.isDigit = false) (colon : c ≠ ':') (sign : c ≠ '@') :
    c ∉ url.authorityText := by
  intro member
  refine forall_mem_authorityText normal (P := (· ≠ c)) ?_ ?_ colon.symm sign.symm ?_ c member rfl
  · rintro _ free rfl
    rw [userinfo] at free
    cases free
  · rintro _ - free rfl
    rw [mark] at free
    cases free
  · rintro _ isDigit rfl
    rw [digit] at isDigit
    cases isDigit

theorem authority?_append :
    authority? false ('/' :: '/' :: (url.authorityText ++ url.pathText.toList)) =
      some (url.authorityText, url.pathText.toList) := by
  have slash : '/' ∉ url.authorityText :=
    not_mem_authorityText normal (by decide) (by decide) (by decide) (by decide) (by decide)
  have passed : ∀ c ∈ url.authorityText, (! (c == '/' || (false && c == '\\'))) = true := by
    intro c member
    simpa using fun same : c = '/' => slash (same ▸ member)
  have path : url.pathText.toList = [] ∨ ∃ rest, url.pathText.toList = '/' :: rest := by
    rw [toList_pathText]
    cases url.path with
    | nil => exact .inl rfl
    | cons segment rest => exact .inr ⟨_, rfl⟩
  unfold authority?
  simp only [Option.map_some]
  rw [List.takeWhile_append_of_pos passed, List.dropWhile_append_of_pos passed]
  rcases path with none | ⟨rest, some⟩
  · simp [none]
  · simp [some]

theorem toList_text : url.text.toList =
    (url.scheme.toList ++ [':', '/', '/']) ++ (url.authorityText ++ url.pathText.toList) := by
  simp [text, normal.query, normal.fragment, marked, authorityText, hostPort]

theorem port?_port : port? url.scheme (url.port.map (Nat.toDigits 10)) = some url.port := by
  cases port : url.port with
  | none => rfl
  | some n => exact port?_toDigits normal.notWeb (normal.port n port)

/-- Behind the scheme, the signs of a fragment and a query do not occur. -/
theorem not_mem_behind_scheme {c : Char} (userinfo : Percent.inUserinfo c = true)
    (mark : isMark c = true) (path : Percent.inPath c = true) (digit : c.isDigit = false)
    (colon : c ≠ ':') (sign : c ≠ '@') (slash : c ≠ '/') :
    c ∉ '/' :: '/' :: (url.authorityText ++ url.pathText.toList) := by
  have segments : c ∉ url.pathText.toList := by
    intro member
    refine forall_mem_pathText normal (P := (· ≠ c)) ?_ slash.symm c member rfl
    rintro _ free rfl
    rw [path] at free
    cases free
  simp only [List.mem_cons, List.mem_append, slash, segments, false_or, or_false]
  exact not_mem_authorityText normal userinfo mark digit colon sign

theorem cleaned_text : cleaned url.text.toList =
    url.scheme.toList ++ ':' :: '/' :: '/' :: (url.authorityText ++ url.pathText.toList) := by
  have behind : ∀ c ∈ url.authorityText ++ url.pathText.toList, 0x20 < c.toNat := by
    intro c member
    rcases List.mem_append.mp member with member | member
    · refine forall_mem_authorityText normal (fun _ => visible_of_inUserinfo)
        (fun _ visible _ => visible) (by decide) (by decide) ?_ c member
      intro c digit
      have := Char.isDigit_iff_toNat.mp digit
      have zero : '0'.toNat = 0x30 := rfl
      omega
    · exact forall_mem_pathText normal (fun _ => visible_of_inPath) (by decide) c member
  rw [toList_text normal, cleaned_append (by simp) (visible_scheme normal.scheme),
    keptBehind_of_visible behind]
  simp

/-- A URL in normal form is read back from its text. -/
theorem parse_text : parse url.text = some url := by
  have noFragment : '#' ∉ '/' :: '/' :: (url.authorityText ++ url.pathText.toList) := by
    apply not_mem_behind_scheme normal <;> decide
  have noQuery : '?' ∉ '/' :: '/' :: (url.authorityText ++ url.pathText.toList) := by
    apply not_mem_behind_scheme normal <;> decide
  have counts : url.host.toList ≠ [] := by simpa using normal.host.named
  have numeric : ∀ ds, url.port.map (Nat.toDigits 10) = some ds → ∀ d ∈ ds, d.isDigit = true := by
    rintro _ are d member
    obtain ⟨port, -, rfl⟩ := Option.map_eq_some_iff.mp are
    exact Nat.isDigit_of_mem_toDigits (by decide) (by decide) member
  have username : Percent.encode Percent.inUserinfo url.username.toList = url.username.toList :=
    Percent.encode_eq_self normal.username
  have password : Percent.encode Percent.inUserinfo
      ((if url.password = "" then none else some url.password.toList).getD []) =
      url.password.toList := by
    split
    · rename_i none
      simp [none, Percent.encode]
    · exact Percent.encode_eq_self normal.password
  have bare : { url with query := none, fragment := none } = url := by
    have query := normal.query
    have fragment := normal.fragment
    cases url
    simp_all
  rw [parse_of_parts normal.scheme normal.notWeb (cleaned_text normal) noFragment noQuery
    (authority?_append normal) (splitLast_authority normal) (splitOnce_userinfo normal)
    (splitPort_hostPort normal) numeric (fun empty => absurd empty counts)
    (by rw [if_neg (by simpa using counts), normal.host.normal]) (port?_port normal)]
  simp only [username, password, segments_pathText normal.path, String.ofList_toList]
  exact congrArg some bare

end

/-! ## Hosts alone -/

/-- A scheme is read with what is kept of a host behind it, if that ends where the text does. -/
theorem parse_kept {scheme host name : String} {kept : List Char}
    (isScheme : isScheme scheme = true) (notWeb : isWeb scheme = false)
    (is : keptBehind host.toList = kept) (free : ∀ c ∈ kept, isMark c = false)
    (whole : splitPort false kept = (kept, none))
    (reads : (if kept.isEmpty then some "" else Host.normal? false kept) = some name) :
    parse (scheme ++ "://" ++ host) = some { scheme, host := name } := by
  have read : cleaned (scheme ++ "://" ++ host).toList =
      scheme.toList ++ ':' :: '/' :: '/' :: kept := by
    have mark : "://".toList = [':', '/', '/'] := rfl
    rw [String.toList_append, String.toList_append, mark,
      cleaned_append (by simp) (visible_scheme isScheme), is]
    simp
  have absent : ∀ mark, isMark mark = true → mark ∉ kept :=
    fun mark => not_mem_of_barred free
  have behind : ∀ mark, isMark mark = true → mark ≠ '/' → mark ∉ '/' :: '/' :: kept := by
    intro mark isMark slash
    simp [slash, absent mark isMark]
  have authority : authority? false ('/' :: '/' :: kept) = some (kept, []) := by
    have passed : ∀ c ∈ kept, (! (c == '/' || (false && c == '\\'))) = true := by
      intro c member
      simpa using fun same : c = '/' => absent '/' (by decide) (same ▸ member)
    simp only [authority?, Option.map_some, List.takeWhile_eq_self_iff.mpr passed,
      List.dropWhile_eq_nil_iff.mpr passed]
  exact parse_of_parts isScheme notWeb read (behind '#' (by decide) (by decide))
    (behind '?' (by decide) (by decide)) authority
    (splitLast_of_not_mem (absent '@' (by decide))) (splitOnce_of_not_mem (by simp)) whole
    (by simp) (fun _ => ⟨rfl, rfl⟩) reads rfl

/-- What is lost of a host is its end, and nothing is lost exactly if no control is there. -/
theorem exists_lost {cs : List Char} (free : ∀ c ∈ cs, Host.isForbidden c = false) :
    ∃ lost, cs = keptBehind cs ++ lost ∧ (lost = [] ↔ ∀ c ∈ cs.getLast?, 0x20 < c.toNat) := by
  obtain ⟨lost, cut⟩ := List.rdropWhile_prefix isEdge cs
  have undropped : ∀ c ∈ cs.rdropWhile isEdge, (! isDropped c) = true := by
    intro c member
    have allowed := free c ((List.rdropWhile_prefix isEdge cs).subset member)
    have other : isDropped c = false := by
      simp only [isDropped, Bool.or_eq_false_iff, beq_eq_false_iff_ne]
      refine ⟨⟨?_, ?_⟩, ?_⟩ <;> rintro rfl <;> cases allowed
    simp [other]
  have kept : keptBehind cs = cs.rdropWhile isEdge := List.filter_eq_self.mpr undropped
  refine ⟨lost, by rw [kept, cut], ?_⟩
  calc lost = [] ↔ cs.rdropWhile isEdge = cs.rdropWhile isEdge ++ lost :=
        List.self_eq_append_right.symm
    _ ↔ cs.rdropWhile isEdge = cs := by rw [cut]
    _ ↔ ∀ some : cs ≠ [], ¬ isEdge (cs.getLast some) = true := List.rdropWhile_eq_self_iff
    _ ↔ ∀ c ∈ cs.getLast?, 0x20 < c.toNat := by
        induction cs using List.reverseRecOn <;> simp [isEdge]

/-- A scheme with a host behind it is read as that, but for controls at the end of the host: these
do not count. What is left of the host is in normal form, unless nothing is. -/
theorem parse_host {scheme host spelling : String} (isScheme : isScheme scheme = true)
    (notWeb : isWeb scheme = false) (spells : Host.normal? false host.toList = some spelling) :
    ∃ name, parse (scheme ++ "://" ++ host) = some { scheme, host := name } ∧
      (name ≠ "" → IsHost name) ∧
      (name = spelling ↔ ∀ c ∈ host.toList.getLast?, 0x20 < c.toNat) := by
  rcases normal?_cases spells with ⟨inner, pieces, brackets, address, rfl⟩ | ⟨free, rfl⟩
  · obtain ⟨signs, isAddress⟩ := Host.of_address6? address
    have kept : keptBehind host.toList = '[' :: (inner ++ [']']) := by
      rw [brackets]
      exact keptBehind_of_visible fun c member => (free_brackets signs c member).1
    refine ⟨"[" ++ Host.coloned pieces ++ "]", ?_, fun _ => isHost_of_address isAddress, ?_⟩
    · refine parse_kept isScheme notWeb kept
        (fun c member => (free_brackets signs c member).2) ?_ ?_
      · simpa [splitPort] using splitPort_brackets signs []
      · rw [normal?_brackets, address]
        rfl
    · have last : host.toList.getLast? = some ']' := by
        rw [brackets, ← List.cons_append, List.getLast?_concat]
      simp [last]
  · obtain ⟨lost, cut, all⟩ := exists_lost free
    have free : ∀ c ∈ keptBehind host.toList, Host.isForbidden c = false :=
      fun c member => free c (by rw [cut]; exact List.mem_append_left lost member)
    refine ⟨String.ofList (Percent.encode Percent.inControls (keptBehind host.toList)), ?_, ?_, ?_⟩
    · refine parse_kept isScheme notWeb rfl
        (fun c member => isMark_of_not_forbidden (free c member)) ?_ ?_
      · simpa [splitPort] using splitPort_append free []
      · split
        · rename_i empty
          rw [List.isEmpty_iff.mp empty]
          rfl
        · exact normal?_of_free free
    · refine fun counts => isHost_of_plain (fun empty => counts ?_) free
      rw [empty]
      rfl
    · rw [← all, String.ofList_inj, ← @Percent.encode_eq_nil_iff Percent.inControls]
      have whole := congrArg (Percent.encode Percent.inControls) cut
      rw [whole, Percent.encode_append]
      exact List.self_eq_append_right

end Workflow.Url
