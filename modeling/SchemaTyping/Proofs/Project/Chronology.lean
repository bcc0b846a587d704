import SchemaTyping.Proofs.Project.MigrationOrder
import SchemaTyping.Proofs.Text.Ascii

/-!
# Migrations in order of time

Migrations are put in order by the names of their files, as texts. That this is
their order in time rests on the **stamp** at the start of a version: six
numbers, each of a width of its own, from the year down to the second. Texts of
one length are in the order of the numbers they write (`Digits.lt_iff`), and
because the widths are fixed the first field that differs decides in both
orders (`Stamp.chars_lt_iff`). A second 60 needs no case of its own.

What stands behind the stamp, the extension among it, does not come into it:
the stamps have one length, so a difference between them is met first.
-/

namespace SchemaTyping

open Text

/-! ## Texts of one length -/

section SameLength

variable {text other rest tail : List Char}

/-- Behind texts of one length, what follows decides only between equal ones. -/
theorem append_lt_append_iff (hlength : text.length = other.length) :
    text ++ rest < other ++ tail ↔ text < other ∨ text = other ∧ rest < tail := by
  induction text generalizing other with
  | nil =>
    obtain rfl := List.length_eq_zero_iff.mp hlength.symm
    simp
  | cons c text ih =>
    cases other with
    | nil => cases hlength
    | cons d other =>
      rw [List.cons_append, List.cons_append, List.cons_lt_cons_iff,
        ih (Nat.succ.inj hlength), List.cons_lt_cons_iff, List.cons.injEq]
      tauto

/-- A number in some base: the digit in front decides, if it differs. -/
theorem mul_add_lt_mul_add_iff {base first second low low' : Nat} (h : low < base)
    (h' : low' < base) : base * first + low < base * second + low'
      ↔ first < second ∨ first = second ∧ low < low' := by
  rcases Nat.lt_trichotomy first second with hlt | rfl | hlt
  · have hle := Nat.mul_le_mul_left base hlt
    rw [Nat.mul_succ] at hle
    omega
  · omega
  · have hle := Nat.mul_le_mul_left base hlt
    rw [Nat.mul_succ] at hle
    omega

theorem ofDigitChars_cons_eq (c : Char) (text : List Char) :
    Nat.ofDigitChars 10 (c :: text) 0
      = 10 ^ text.length * (c.toNat - '0'.toNat) + Nat.ofDigitChars 10 text 0 := by
  rw [Nat.ofDigitChars_cons, Nat.ofDigitChars_eq_ofDigitChars_zero, Nat.mul_zero, Nat.zero_add]

theorem ofDigitChars_lt_pow (h : ∀ c ∈ text, c.isDigit = true) :
    Nat.ofDigitChars 10 text 0 < 10 ^ text.length := by
  induction text with
  | nil => simp
  | cons c text ih =>
    obtain ⟨hc, htext⟩ := List.forall_mem_cons.mp h
    have hrest := ih htext
    have hdigit : c.toNat - '0'.toNat ≤ 9 := by
      have hle := (Char.isDigit_iff_toNat.mp hc).2
      have hnine : '9'.toNat = '0'.toNat + 9 := rfl
      omega
    have hfirst := Nat.mul_le_mul_left (10 ^ text.length) hdigit
    rw [ofDigitChars_cons_eq, List.length_cons, Nat.pow_succ]
    omega

/-- **Numbers of one width** are in the order of their digits. -/
theorem ofDigitChars_lt_iff (hlength : text.length = other.length)
    (htext : ∀ c ∈ text, c.isDigit = true) (hother : ∀ c ∈ other, c.isDigit = true) :
    Nat.ofDigitChars 10 text 0 < Nat.ofDigitChars 10 other 0 ↔ text < other := by
  induction text generalizing other with
  | nil =>
    obtain rfl := List.length_eq_zero_iff.mp hlength.symm
    simp
  | cons c text ih =>
    cases other with
    | nil => cases hlength
    | cons d other =>
      obtain ⟨hc, htext⟩ := List.forall_mem_cons.mp htext
      obtain ⟨hd, hother⟩ := List.forall_mem_cons.mp hother
      have hlength : text.length = other.length := Nat.succ.inj hlength
      have hfirst : c.toNat - '0'.toNat < d.toNat - '0'.toNat ↔ c < d := by
        have hc := (Char.isDigit_iff_toNat.mp hc).1
        rw [Char.lt_def, UInt32.lt_iff_toNat_lt]
        show _ ↔ c.toNat < d.toNat
        omega
      have hfirst' : c.toNat - '0'.toNat = d.toNat - '0'.toNat ↔ c = d := by
        have hc := (Char.isDigit_iff_toNat.mp hc).1
        have hd := (Char.isDigit_iff_toNat.mp hd).1
        rw [← Char.toNat_inj]
        omega
      -- what follows the first digit is less than its place is worth
      rw [ofDigitChars_cons_eq, ofDigitChars_cons_eq, List.cons_lt_cons_iff,
        ← ih hlength htext hother, ← hfirst, ← hfirst', hlength]
      have hrest := ofDigitChars_lt_pow htext
      have hrest' := ofDigitChars_lt_pow hother
      rw [hlength] at hrest
      exact mul_add_lt_mul_add_iff hrest hrest'

end SameLength

/-- **A number written in so many digits**, with leading zeros if need be. -/
structure Digits (width : Nat) where
  chars : List Char
  length_chars : chars.length = width
  all_isDigit : chars.all Char.isDigit = true

namespace Digits

variable {width : Nat} {rest tail : List Char}

/-- The number that the digits write. -/
def value (digits : Digits width) : Nat := Nat.ofDigitChars 10 digits.chars 0

theorem isDigit (digits : Digits width) : ∀ c ∈ digits.chars, c.isDigit = true :=
  List.all_eq_true.mp digits.all_isDigit

/-- **The order of the numbers** is that of the texts. -/
theorem lt_iff (digits other : Digits width) :
    digits.chars < other.chars ↔ digits.value < other.value :=
  (ofDigitChars_lt_iff (digits.length_chars.trans other.length_chars.symm) digits.isDigit
    other.isDigit).symm

theorem chars_eq_iff (digits other : Digits width) :
    digits.chars = other.chars ↔ digits.value = other.value := by
  refine ⟨congrArg (Nat.ofDigitChars 10 · 0), fun h => ?_⟩
  have hlt := mt (lt_iff digits other).mp h.not_lt
  have hlt' := mt (lt_iff other digits).mp h.not_gt
  exact Std.le_antisymm (Std.not_lt.mp hlt') (Std.not_lt.mp hlt)

theorem append_lt_iff (digits other : Digits width) :
    digits.chars ++ rest < other.chars ++ tail
      ↔ digits.value < other.value ∨ digits.value = other.value ∧ rest < tail := by
  rw [append_lt_append_iff (digits.length_chars.trans other.length_chars.symm), lt_iff,
    chars_eq_iff]

theorem isAscii (digits : Digits width) : IsAscii digits.chars := by
  intro c hc
  have hle := (Char.isDigit_iff_toNat.mp (digits.isDigit c hc)).2
  have hnine : '9'.toNat < 128 := by decide
  omega

theorem chars_ne_nil (digits : Digits width) (hwidth : width ≠ 0) : digits.chars ≠ [] := by
  intro h
  exact hwidth (digits.length_chars.symm.trans (congrArg List.length h))

/-- No blank is passed over in front of a number. -/
theorem trimStart_append (digits : Digits width) (hwidth : width ≠ 0) (rest : List Char) :
    trimStart (digits.chars ++ rest) = digits.chars ++ rest := by
  refine trimStart_eq_self fun c hc => isBlank_of_isAsciiWord (isAsciiWord_of_isDigit ?_)
  exact digits.isDigit c (mem_of_head?_append (digits.chars_ne_nil hwidth) hc)

/-- **A number of its full width** is read whatever follows it. -/
theorem readNumber_append (digits : Digits width) (hwidth : width ≠ 0) (rest : List Char) :
    Timestamp.readNumber width (digits.chars ++ rest) = some (digits.value, rest) := by
  have htake : ((digits.chars ++ rest).take width).takeWhile Char.isDigit = digits.chars := by
    rw [List.take_left' digits.length_chars]
    exact List.takeWhile_eq_self_iff.mpr digits.isDigit
  have hread : readDigits digits.chars = some digits.value := by
    unfold readDigits value
    rw [digits.all_isDigit, if_pos, Nat.ofDigitChars_eq_foldl]
    simp [digits.chars_ne_nil hwidth]
  unfold Timestamp.readNumber
  dsimp only
  rw [digits.trimStart_append hwidth, htake, hread, List.drop_left, Option.map_some]

/-- A year without a sign is a number of four digits. -/
theorem readYear_append (year : Digits 4) (rest : List Char) :
    Timestamp.readYear (year.chars ++ rest) = some ((year.value : Int), rest) := by
  have hsign : ∀ c text, year.chars ++ rest = c :: text → c.isDigit = true := by
    intro c text h
    have hhead : (year.chars ++ rest).head? = some c := congrArg List.head? h
    exact year.isDigit c (mem_of_head?_append (year.chars_ne_nil (by decide)) hhead)
  unfold Timestamp.readYear
  rw [year.trimStart_append (by decide)]
  split
  · next h => exact absurd (hsign _ _ h) (by decide)
  · next h => exact absurd (hsign _ _ h) (by decide)
  · rw [year.readNumber_append (by decide)]
    rfl

end Digits

/-! ## The stamp of a version -/

/-- **A stamp**: the moment that a version starts with, each of its numbers in
its full width. -/
structure Stamp where
  year : Digits 4
  month : Digits 2
  day : Digits 2
  hour : Digits 2
  minute : Digits 2
  second : Digits 2

namespace Stamp

variable {version : String}

/-- The stamp as it is written, such as `2024_01_15_093000`. -/
def chars (stamp : Stamp) : List Char :=
  stamp.year.chars ++ '_' :: (stamp.month.chars ++ '_' :: (stamp.day.chars
    ++ '_' :: (stamp.hour.chars ++ (stamp.minute.chars ++ stamp.second.chars))))

/-- The moment that the numbers say, be there such a moment or not. -/
def moment (stamp : Stamp) : Timestamp :=
  ⟨stamp.year.value, stamp.month.value, stamp.day.value, stamp.hour.value,
    stamp.minute.value, stamp.second.value⟩

/-- **The version starts with the stamp.** -/
def Leads (stamp : Stamp) (version : String) : Prop := stamp.chars <+: version.toList

theorem length_chars (stamp : Stamp) : stamp.chars.length = 17 := by
  simp [chars, Digits.length_chars]

theorem isAscii (stamp : Stamp) : IsAscii stamp.chars := by
  simp only [IsAscii, chars, List.forall_mem_append, List.forall_mem_cons]
  exact ⟨stamp.year.isAscii, by decide, stamp.month.isAscii, by decide, stamp.day.isAscii,
    by decide, stamp.hour.isAscii, stamp.minute.isAscii, stamp.second.isAscii⟩

/-- **The order of stamps as texts** is that of their moments. -/
theorem chars_lt_iff (stamp other : Stamp) :
    stamp.chars < other.chars ↔ stamp.moment < other.moment := by
  show _ ↔ stamp.moment.fields < other.moment.fields
  simp [chars, moment, Timestamp.fields, Digits.append_lt_iff, Digits.lt_iff,
    List.cons_lt_cons_iff]

/-! ## The stamp is what is read -/

theorem takeBytes_append {text : List Char} (h : IsAscii text) (rest : List Char) :
    Timestamp.takeBytes text.length (text ++ rest) = some text := by
  induction text with
  | nil => cases rest <;> rfl
  | cons c text ih =>
    obtain ⟨hc, htext⟩ := List.forall_mem_cons.mp h
    have hsize : c.utf8Size = 1 := by
      rw [Char.utf8Size_eq_one_iff, UInt32.le_iff_toNat_le]
      exact Nat.le_of_lt_succ hc
    rw [List.cons_append, Timestamp.takeBytes, hsize, List.length_cons, if_neg (by omega),
      if_pos (by omega), Nat.add_sub_cancel, ih htext]
    rfl

theorem ofChars?_chars (stamp : Stamp) : Timestamp.ofChars? stamp.chars
    = if stamp.moment.isValid then some stamp.moment else none := by
  have hsecond := stamp.second.readNumber_append (by decide) []
  rw [List.append_nil] at hsecond
  unfold Timestamp.ofChars? chars
  simp only [Digits.readYear_append, Digits.readNumber_append, Timestamp.afterUnderscore,
    hsecond, bind, Option.bind_some, List.isEmpty_nil, Bool.true_and, moment, ne_eq,
    OfNat.ofNat_ne_zero, not_false_eq_true]
  rfl

/-- **Of a version that starts with a stamp** the moment is that of the stamp,
if there is such a moment. -/
theorem Leads.ofVersion?_eq {stamp : Stamp} (h : stamp.Leads version) :
    Timestamp.ofVersion? version
      = if stamp.moment.isValid then some stamp.moment else none := by
  obtain ⟨rest, hrest⟩ := h
  unfold Timestamp.ofVersion?
  rw [← hrest, ← stamp.length_chars, takeBytes_append stamp.isAscii, Option.bind_some,
    ofChars?_chars]

theorem Leads.moment_eq {stamp : Stamp} {moment : Timestamp} (h : stamp.Leads version)
    (hmoment : Timestamp.ofVersion? version = some moment) : stamp.moment = moment := by
  rw [h.ofVersion?_eq] at hmoment
  split at hmoment
  · exact Option.some.inj hmoment
  · cases hmoment

end Stamp

/-! ## The names of files -/

namespace Path

variable {first second : Path}

theorem splitExtension_prefix (name : String) :
    (splitExtension name).1.toList <+: name.toList := by
  unfold splitExtension
  split
  · exact List.prefix_rfl
  · exact List.prefix_rfl
  · next before after _ hcut =>
    unfold Text.cutLast at hcut
    obtain ⟨⟨after', before'⟩, hfirst, heq⟩ := Option.map_eq_some_iff.mp hcut
    cases heq
    have happend := congrArg List.reverse (append_of_cutFirst hfirst)
    rw [List.reverse_reverse, List.reverse_append, List.reverse_cons] at happend
    rw [happend, String.toList_ofList, List.append_assoc]
    exact List.prefix_append _ _

/-- The version of a migration is what its file name starts with. -/
theorem stem_prefix (path : Path) : path.stem.toList <+: path.nameText.toList := by
  unfold stem nameText
  cases path.fileName? with
  | none => exact List.prefix_rfl
  | some name => exact splitExtension_prefix name

/-- **An earlier stamp** is that of an earlier name, whatever stands behind the
stamps. -/
theorem nameText_lt_of_leads {stamp other : Stamp} (h : stamp.Leads first.stem)
    (h' : other.Leads second.stem) (hlt : stamp.moment < other.moment) :
    first.nameText < second.nameText := by
  obtain ⟨rest, hrest⟩ := h.trans first.stem_prefix
  obtain ⟨tail, htail⟩ := h'.trans second.stem_prefix
  rw [String.lt_iff_toList_lt, ← hrest, ← htail,
    append_lt_append_iff (stamp.length_chars.trans other.length_chars.symm)]
  exact .inl ((stamp.chars_lt_iff other).mpr hlt)

end Path

namespace Migration

variable {tree : FileTree} {directories : List Path} {migration first second : Migration}
  {moment later : Timestamp} {i j : Nat}

theorem version_eq_stem {path : Path} (h : ofFile? tree path = some migration) :
    migration.version = path.stem := by
  rw [ofFile?_eq] at h
  obtain ⟨operations, -, rfl⟩ := Option.map_eq_some_iff.mp h
  rfl

/-- **The migrations are loaded** in the order of the names of their files. -/
theorem inDirectories_pairwise (tree : FileTree) (directories : List Path) :
    (inDirectories tree directories).Pairwise fun first second =>
      ∃ path path' : Path, first.version = path.stem ∧ second.version = path'.stem
        ∧ path.ByName path' := by
  -- leaving out what cannot be read keeps the rest in order
  refine List.Pairwise.filterMap _ ?_ (ascending_files tree directories)
  intro path path' hle first hfirst second hsecond
  exact ⟨path, path', version_eq_stem hfirst, version_eq_stem hsecond, hle⟩

theorem append_of_getElem? {α : Type} {items : List α} {item : α}
    (h : items[i]? = some item) :
    ∃ before after, items = before ++ item :: after ∧ before.length = i := by
  obtain ⟨hi, rfl⟩ := List.getElem?_eq_some_iff.mp h
  refine ⟨items.take i, items.drop (i + 1), ?_, List.length_take_of_le hi.le⟩
  rw [← List.drop_eq_getElem_cons, List.take_append_drop]

/-- An earlier moment comes at an earlier place: the places are not in the
reverse order, since the names are not, and one place has one moment. -/
theorem lt_of_moment_lt {stamp other : Stamp}
    (hfirst : (inDirectories tree directories)[i]? = some first)
    (hsecond : (inDirectories tree directories)[j]? = some second)
    (hstamp : stamp.Leads first.version) (hother : other.Leads second.version)
    (hlt : stamp.moment < other.moment) : i < j := by
  obtain ⟨hi, rfl⟩ := List.getElem?_eq_some_iff.mp hfirst
  obtain ⟨hj, rfl⟩ := List.getElem?_eq_some_iff.mp hsecond
  have hchars := (stamp.chars_lt_iff other).mpr hlt
  rcases Nat.lt_trichotomy i j with hij | rfl | hji
  · exact hij
  · -- two stamps of one version are equal, being of one length
    have heq : stamp.chars = other.chars :=
      List.prefix_of_prefix_length_le hstamp hother (by simp [Stamp.length_chars])
        |>.eq_of_length (by simp [Stamp.length_chars])
    exact absurd (heq ▸ hchars) (List.lt_irrefl _)
  · obtain ⟨path, path', hpath, hpath', hle⟩ :=
      List.pairwise_iff_getElem.mp (inDirectories_pairwise tree directories) j i hj hi hji
    rw [hpath'] at hstamp
    rw [hpath] at hother
    have hname := Path.nameText_lt_of_leads hstamp hother hlt
    rcases hle with hlt' | ⟨heq, -⟩
    · exact absurd (String.lt_trans hname hlt') (String.lt_irrefl _)
    · exact absurd (heq ▸ hname) (String.lt_irrefl _)

/-- A migration of the leap second at the end of 2016 and one of the second
after it, with names that go on in the other order, and one without a stamp. -/
def yearTurnTree : FileTree where
  entries := [
    (["a"], .directory),
    (["a", "2017_01_01_000000.yaml"], .text "operations: [{op: drop_table, table: new}]"),
    (["b"], .directory),
    (["b", "init.yaml"], .text "operations: [{op: drop_table, table: none}]"),
    (["b", "2016_12_31_235960_z.yml"], .text "operations: [{op: drop_table, table: old}]")]
  distinct := by decide

end Migration

end SchemaTyping
