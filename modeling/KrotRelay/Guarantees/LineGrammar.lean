import KrotRelay.Guarantees.UnknownOptions

/-!
# The grammar of a line of authorized_keys

A line is written from the settings it is to give: the options in any order, each with its
name and the items of its value, white space or a comma between any two of them. A comma also
stands between the items of a value, and `parse_line` has to find out which is which.
-/
namespace KrotRelay.Guarantees
open Source Lib List Option

/-! ## What a line says -/

/-- A character that ends neither an item nor a line. -/
def Plain (c : Char) : Prop := isWhitespace c = false ∧ c ∉ [',', '=', '#']

structure Item where
  text : List Char
  nonempty : text ≠ []
  plain : ∀ c ∈ text, Plain c

/-- A list that is not empty. -/
structure Items (α : Type) where
  first : α
  more : List α

def Items.toList {α : Type} (items : Items α) : List α := items.first :: items.more

def Items.map {α β : Type} (f : α → β) (items : Items α) : Items β :=
  ⟨f items.first, items.more.map f⟩

def Items.names (items : Items Item) : List String :=
  items.toList.map fun item => String.ofList item.text

/-- One port, or the ports from `lo` to `hi`. -/
inductive PortItem where
  | port (number : UInt16)
  | range (lo hi : UInt16) (ordered : lo ≤ hi)

def PortItem.text : PortItem → List Char
  | .port number => Nat.toDigits 10 number.toNat
  | .range lo hi _ => Nat.toDigits 10 lo.toNat ++ '-' :: Nat.toDigits 10 hi.toNat

def PortItem.ports : PortItem → List UInt16
  | .port number => [number]
  | .range lo hi _ => (List.range' lo.toNat (hi.toNat + 1 - lo.toNat)).map UInt16.ofNat

/-- A rate `parse_rate_per` accepts, written without white space. -/
structure WrittenRate where
  text : List Char
  rate : RatePer
  accepted : parseRatePer text = some rate
  solid : ∀ c ∈ text, isWhitespace c = false

inductive Subdomains where
  | any
  | listed (items : Items Item) (other : items.toList.map Item.text ≠ ["*".toList])

/-- What a line sets; an option that is not given is `none`. -/
structure Settings where
  subdomain : Option Subdomains
  conns : Option UInt32
  bw : Option WrittenRate
  quota : Option WrittenRate
  ports : Option (Items PortItem)
  federation : Option (Items Item)

/-- The entry that holds the settings, and the default for what is not set. -/
def Settings.entry (settings : Settings) (comment : Option String) : AuthorizedEntry where
  allowAnySubdomain :=
    match settings.subdomain with
    | some .any => true
    | _ => false
  allowedSubdomains :=
    match settings.subdomain with
    | some (.listed items _) => items.names
    | _ => []
  maxConns := settings.conns
  allowedPorts := settings.ports.map fun items => items.toList.flatMap PortItem.ports
  bw := settings.bw.map WrittenRate.rate
  quota := settings.quota.map WrittenRate.rate
  federation := (settings.federation.map Items.names).getD []
  comment := comment

/-! ## How it is written -/

inductive LineOption where
  | subdomain (choice : Subdomains)
  | conns (number : UInt32)
  | bw (rate : WrittenRate)
  | quota (rate : WrittenRate)
  | ports (items : Items PortItem)
  | federation (items : Items Item)

def Settings.options (settings : Settings) : List LineOption :=
  (settings.subdomain.map LineOption.subdomain).toList ++
    ((settings.conns.map LineOption.conns).toList ++ ((settings.bw.map LineOption.bw).toList ++
        ((settings.quota.map LineOption.quota).toList ++
          ((settings.ports.map LineOption.ports).toList ++
            (settings.federation.map LineOption.federation).toList))))

def optionName : OptionKey → List Char
  | .subdomain => "subdomain".toList
  | .conns => "conns".toList
  | .bw => "bw".toList
  | .quota => "quota".toList
  | .ports => "ports".toList
  | .federation => "federation".toList

namespace LineOption

def key : LineOption → OptionKey
  | .subdomain _ => .subdomain
  | .conns _ => .conns
  | .bw _ => .bw
  | .quota _ => .quota
  | .ports _ => .ports
  | .federation _ => .federation

/-- The items of the value. -/
def items : LineOption → Items (List Char)
  | .subdomain .any => ⟨"*".toList, []⟩
  | .subdomain (.listed items _) => items.map Item.text
  | .conns number => ⟨Nat.toDigits 10 number.toNat, []⟩
  | .bw rate => ⟨rate.text, []⟩
  | .quota rate => ⟨rate.text, []⟩
  | .ports items => items.map PortItem.text
  | .federation items => items.map Item.text

def value (option : LineOption) : List Char :=
  option.items.first ++ continued option.items.more

/-- The fragment that begins the option. -/
def opening (option : LineOption) : List Char :=
  optionName option.key ++ '=' :: option.items.first

def text (option : LineOption) : List Char := option.opening ++ continued option.items.more

end LineOption

/-- A line of the grammar: `ed25519`, the key, the options of the settings in some order, each
behind white space or, if it is not the first, behind a comma, and a comment. -/
structure GrammarLine where
  pubkey : PubKey
  settings : Settings
  keyGap : List Char
  placed : List (List Char × LineOption)
  tail : List Char
  comment : Option (List Char)
  keyed : Separates False keyGap
  ordered : (placed.map Prod.snd).Perm settings.options
  separated : ∀ before gap option after, placed = before ++ (gap, option) :: after →
    Separates (before ≠ []) gap
  blank : ∀ c ∈ tail, isWhitespace c = true

namespace GrammarLine
variable (line : GrammarLine)

/-- The options with what stands in front of them. -/
def written (placed : List (List Char × LineOption)) : List Char :=
  placed.flatMap fun part => part.1 ++ part.2.text

def text (ext : External) : List Char :=
  "ed25519".toList ++ (line.keyGap ++ (ext.base64 line.pubkey).toList) ++ written line.placed ++
    (line.tail ++ line.comment.elim [] ('#' :: ·))

/-- What is left of the comment when it is trimmed, if anything. -/
def remark : Option String :=
  ((line.comment.map trim).filter fun text => !text.isEmpty).map String.ofList

end GrammarLine

/-! ## Items and numbers -/

theorem plain_digit {n : Nat} {c : Char} (mem : c ∈ Nat.toDigits 10 n) : Plain c ∧ c ≠ '-' := by
  have digit : c.isDigit = true := Nat.isDigit_of_mem_toDigits (by decide) (by decide) mem
  have range : 48 ≤ c.toNat ∧ c.toNat ≤ 57 := by
    simpa [Char.isDigit, UInt32.le_iff_toNat_le] using digit
  have differs : ∀ other : Char, other.toNat < 48 ∨ 57 < other.toNat → c ≠ other := by
    rintro other outside rfl
    omega
  refine ⟨⟨?_, ?_⟩, differs '-' (by decide)⟩
  · simp only [isWhitespace]
    grind
  · simp [differs ',' (by decide), differs '=' (by decide), differs '#' (by decide)]

theorem PortItem.plain (item : PortItem) : ∀ c ∈ item.text, Plain c := by
  intro c mem
  cases item with
  | port => exact (plain_digit mem).1
  | range =>
    rcases mem_append.mp mem with inLo | inRest
    · exact (plain_digit inLo).1
    · rcases mem_cons.mp inRest with rfl | inHi
      · exact ⟨by decide, by decide⟩
      · exact (plain_digit inHi).1

theorem LineOption.plain (option : LineOption) :
    ∀ piece ∈ option.items.toList, ∀ c ∈ piece, Plain c := by
  have rate : ∀ rate : WrittenRate, ∀ c ∈ rate.text, Plain c := fun rate c mem =>
    ⟨rate.solid c mem, parseRatePer_plain rate.accepted c mem⟩
  intro piece mem
  cases option with
  | subdomain choice =>
    cases choice with
    | any =>
      obtain rfl : piece = ['*'] := mem_singleton.mp mem
      exact forall_mem_singleton.mpr ⟨by decide, by decide⟩
    | listed names =>
      obtain ⟨item, -, rfl⟩ := List.mem_map.mp (show piece ∈ names.toList.map Item.text from mem)
      exact item.plain
  | conns number =>
    obtain rfl := mem_singleton.mp mem
    exact fun c digit => (plain_digit digit).1
  | bw written | quota written =>
    obtain rfl := mem_singleton.mp mem
    exact rate written
  | ports list =>
    obtain ⟨item, -, rfl⟩ := List.mem_map.mp (show piece ∈ list.toList.map PortItem.text from mem)
    exact item.plain
  | federation names =>
    obtain ⟨item, -, rfl⟩ := List.mem_map.mp (show piece ∈ names.toList.map Item.text from mem)
    exact item.plain

theorem Plain.excludes {piece : List Char} (plain : ∀ c ∈ piece, Plain c) {c : Char}
    (special : c ∈ [',', '=', '#']) : c ∉ piece :=
  fun mem => (plain c mem).2 special

/-! ## The value of an option -/

theorem PortItem.parse (item : PortItem) : parsePortItem (trim item.text) = some item.ports := by
  have number : ∀ port : UInt16, parsePort (Nat.toDigits 10 port.toNat) = some port.toNat :=
    fun port => parseUnsigned_toDigits port.toNat_lt
  have whole : ∀ n : Nat, trim (Nat.toDigits 10 n) = Nat.toDigits 10 n :=
    fun n => trim_solid fun c mem => (plain_digit mem).1.1
  rw [trim_solid fun c mem => (item.plain c mem).1]
  unfold parsePortItem
  cases item with
  | port port =>
    have single : splitOnce '-' (PortItem.port port).text = none := by
      unfold splitOnce
      rw [if_neg]
      exact fun dash => (plain_digit (contains_iff_mem.mp dash)).2 rfl
    rw [single]
    simp [text, ports, number]
  | range lo hi ordered =>
    have bounds : lo.toNat ≤ hi.toNat := UInt16.le_iff_toNat_le.mp ordered
    have cut : splitOnce '-' (PortItem.range lo hi ordered).text =
        some (Nat.toDigits 10 lo.toNat, Nat.toDigits 10 hi.toNat) :=
      splitOnce_append (fun dash => (plain_digit dash).2 rfl) _
    rw [cut]
    have size : hi.toNat + 1 - lo.toNat = hi.toNat - lo.toNat + 1 := by omega
    simp [whole, number, ports, Nat.not_lt.mpr bounds, size, range'_eq_map_range, Function.comp_def]

theorem PortItem.ports_ne_nil (item : PortItem) : item.ports ≠ [] := by
  cases item with
  | port => exact cons_ne_nil _ _
  | range lo hi ordered =>
    have bounds : lo.toNat ≤ hi.toNat := UInt16.le_iff_toNat_le.mp ordered
    simp [ports]
    omega

namespace LineOption
variable (option : LineOption)

/-- The commas behind the first item are those between items. -/
theorem splitOn_items {first : List Char} (single : ',' ∉ first) :
    (first ++ continued option.items.more).splitOn ',' = first :: option.items.more := by
  have more : ∀ piece ∈ option.items.more, ',' ∉ piece := fun piece mem =>
    Plain.excludes (option.plain _ (mem_cons_of_mem _ mem)) (by decide)
  rw [splitOn_continued _ _ more, splitOn_eq_singleton single, singleton_append]

theorem splitOn_value : option.value.splitOn ',' = option.items.toList :=
  option.splitOn_items (Plain.excludes (option.plain _ mem_cons_self) (by decide))

/-- The entry with the value the option gives. -/
def setIn (entry : AuthorizedEntry) : LineOption → AuthorizedEntry
  | .subdomain .any => { entry with allowAnySubdomain := true }
  | .subdomain (.listed items _) => { entry with allowedSubdomains := items.names }
  | .conns number => { entry with maxConns := some number }
  | .bw rate => { entry with bw := some rate.rate }
  | .quota rate => { entry with quota := some rate.rate }
  | .ports items => { entry with allowedPorts := some (items.toList.flatMap PortItem.ports) }
  | .federation items => { entry with federation := items.names }

theorem parsePorts_value (items : Items PortItem) :
    parsePorts (value (.ports items)) = some (items.toList.flatMap PortItem.ports) := by
  have parsed : ∀ list : List PortItem,
      (list.map PortItem.text).mapM (fun part => parsePortItem (trim part)) =
        some (list.map PortItem.ports) := by
    intro list
    induction list with
    | nil => rfl
    | cons item _ ih =>
      rw [map_cons, mapM_cons, item.parse, ih]
      rfl
  have some_ : ((items.toList.map PortItem.ports).flatten.isEmpty) = false := by
    simp [Items.toList, items.first.ports_ne_nil]
  unfold parsePorts
  rw [splitOn_value, show (LineOption.ports items).items.toList =
    items.toList.map PortItem.text from rfl, parsed]
  simp only [bind_eq_bind, bind_some, some_]
  rfl

theorem apexes_value (items : Items Item) :
    (Field.apexes (value (.federation items))).map String.ofList = items.names := by
  have whole : ∀ list : List Item,
      ((list.map Item.text).map trim).filter (fun apex => !apex.isEmpty) = list.map Item.text := by
    intro list
    induction list with
    | nil => rfl
    | cons item _ ih =>
      have solid := trim_solid fun c mem => (item.plain c mem).1
      rw [map_cons, map_cons, solid, filter_cons_of_pos (by simp [item.nonempty]), ih]
  unfold Field.apexes
  rw [splitOn_value, show (LineOption.federation items).items.toList =
    items.toList.map Item.text from rfl, whole, List.map_map]
  rfl

theorem applyOption_value (entry : AuthorizedEntry) :
    applyOption entry (option.key, option.value) = option.setIn entry := by
  cases option with
  | subdomain choice =>
    cases choice with
    | any => simp [key, value, items, continued, applyOption, setIn]
    | listed names other =>
      have pieces := splitOn_value (.subdomain (.listed names other))
      have notStar : value (.subdomain (.listed names other)) ≠ "*".toList := by
        intro star
        rw [star] at pieces
        exact other (pieces.symm.trans (by decide))
      simp only [key, applyOption, if_neg notStar, pieces, setIn, Items.names]
      rw [show (LineOption.subdomain (.listed names other)).items.toList =
        names.toList.map Item.text from rfl, List.map_map]
      rfl
  | conns number =>
    have parsed : parseUnsigned (2 ^ 32) (Nat.toDigits 10 number.toNat) = some number.toNat :=
      parseUnsigned_toDigits number.toNat_lt
    simp only [key, value, items, continued, flatMap_nil, append_nil, applyOption, setIn,
      parsed, map_some, UInt32.ofNat_toNat]
  | bw rate | quota rate =>
    simp [key, value, items, continued, applyOption, setIn, rate.accepted]
  | ports items => simp only [key, applyOption, parsePorts_value, setIn]
  | federation items =>
    have names := apexes_value items
    unfold Field.apexes at names
    simp only [key, applyOption, names, setIn]

/-! ## The options in any order -/

theorem setIn_comm {option other : LineOption} (differ : option.key ≠ other.key)
    (entry : AuthorizedEntry) : other.setIn (option.setIn entry) = option.setIn (other.setIn entry) := by
  -- what a subdomain option sets depends on its choice
  rcases option with (_ | _) | _ | _ | _ | _ | _ <;> rcases other with (_ | _) | _ | _ | _ | _ | _ <;>
    first | rfl | exact absurd rfl differ

end LineOption

namespace Settings
variable (settings : Settings)

/-- No option is given twice. -/
theorem options_unique {option other : LineOption} (mem : option ∈ settings.options)
    (belongs : other ∈ settings.options) (same : option.key = other.key) : option = other := by
  simp only [options, mem_append, mem_toList, map_eq_some_iff] at mem belongs
  cases option <;> cases other <;> simp_all [LineOption.key]

theorem foldl_options : settings.options.foldl (fun entry option => option.setIn entry) .default =
    settings.entry none := by
  obtain ⟨subdomain, conns, bw, quota, ports, federation⟩ := settings
  simp only [options, foldl_append]
  rcases subdomain with _ | (_ | _) <;> cases conns <;> cases bw <;> cases quota <;> cases ports <;>
    cases federation <;> rfl

/-- Whatever their order, the options give the entry of the settings. -/
theorem foldl_ordered {order : List LineOption} (ordered : order.Perm settings.options) :
    (order.map fun option => (option.key, option.value)).foldl applyOption .default =
      settings.entry none := by
  have commute : ∀ option ∈ order, ∀ other ∈ order, ∀ entry : AuthorizedEntry,
      other.setIn (option.setIn entry) = option.setIn (other.setIn entry) := by
    intro option mem other belongs entry
    by_cases same : option.key = other.key
    · rw [settings.options_unique (ordered.subset mem) (ordered.subset belongs) same]
    · exact LineOption.setIn_comm same entry
  simp only [foldl_map, LineOption.applyOption_value]
  rw [ordered.foldl_eq' commute, settings.foldl_options]

end Settings

/-! ## The fragments of the line -/

namespace LineOption
variable (option : LineOption)

theorem recognised_opening : recognised option.opening = some (option.key, option.items.first) := by
  have named : '=' ∉ optionName option.key ∧ OptionKey.ofText (optionName option.key) =
      some option.key := by
    cases option.key <;> decide
  simp [recognised, opening, splitOnce_append named.1, named.2]

theorem recognised_more {piece : List Char} (mem : piece ∈ option.items.more) :
    recognised piece = none := by
  have plain := option.plain piece (mem_cons_of_mem _ mem)
  rw [recognised, splitOnce, if_neg]
  · rfl
  · exact fun equals => Plain.excludes plain (by decide) (contains_iff_mem.mp equals)

theorem foldl_addFragment_options (options : List LineOption)
    (pairs : List (OptionKey × List Char)) :
    (options.flatMap fun option => option.opening :: option.items.more).foldl addFragment pairs =
      pairs ++ options.map fun option => (option.key, option.value) := by
  induction options generalizing pairs with
  | nil => simp
  | cons option _ ih =>
    rw [flatMap_cons, foldl_append, foldl_cons, addFragment_some option.recognised_opening,
      foldl_addFragment_concat fun _ => option.recognised_more, ih, map_cons,
      append_assoc]
    rfl

theorem text_ne_nil : option.text ≠ [] := by simp [text, opening]

theorem solid_text : ∀ c ∈ option.text, isWhitespace c = false ∧ c ≠ '#' := by
  have named : ∀ c ∈ optionName option.key, isWhitespace c = false ∧ c ≠ '#' := by
    have spelled : (optionName option.key).all (fun c => !isWhitespace c && c != '#') = true := by
      cases option.key <;> decide
    intro c mem
    simpa using all_eq_true.mp spelled c mem
  have piece : ∀ piece ∈ option.items.toList, ∀ c ∈ piece, isWhitespace c = false ∧ c ≠ '#' := by
    intro piece mem c inside
    have plain := option.plain piece mem c inside
    exact ⟨plain.1, fun hash => plain.2 (by simp [hash])⟩
  intro c mem
  simp only [text, opening, continued, mem_append, mem_cons, mem_flatMap] at mem
  rcases mem with (inName | rfl | inFirst) | ⟨next, belongs, rfl | inMore⟩
  · exact named c inName
  · decide
  · exact piece _ mem_cons_self c inFirst
  · decide
  · exact piece next (mem_cons_of_mem _ belongs) c inMore

theorem fragments_text : fragments (splitWhitespace option.text) =
    option.opening :: option.items.more := by
  have first : ',' ∉ option.opening := by
    have named : ',' ∉ optionName option.key := by cases option.key <;> decide
    have plain := Plain.excludes (option.plain _ mem_cons_self) (show ',' ∈ [',', '=', '#'] by decide)
    simp [opening, named, plain]
  rw [splitWhitespace_word (fun c mem => (option.solid_text c mem).1) option.text_ne_nil]
  simp only [fragments, flatMap_singleton]
  exact option.splitOn_items first

end LineOption

/-! ## The words of the line -/

/-- A text whose first two words are the given ones and whose other words have the given
fragments; an option can be written behind it. -/
structure Spells (algo b64 : List Char) (pieces : List (List Char)) (front : List Char) : Prop where
  ends : ∃ c, front.getLast? = some c ∧ isWhitespace c = false
  plain : '#' ∉ front
  lead : (splitWhitespace front).take 2 = [algo, b64]
  rest : fragments ((splitWhitespace front).drop 2) = pieces

theorem ends_solid (front : List Char) {word : List Char} (nonempty : word ≠ [])
    (solid : ∀ c ∈ word, isWhitespace c = false) :
    ∃ c, (front ++ word).getLast? = some c ∧ isWhitespace c = false := by
  refine ⟨word.getLast nonempty, ?_, solid _ (getLast_mem nonempty)⟩
  rw [getLast?_append_of_ne_nil _ nonempty, getLast?_eq_some_getLast nonempty]

namespace Spells
variable {algo b64 front gap : List Char} {pieces : List (List Char)}

theorem two_le (spells : Spells algo b64 pieces front) : 2 ≤ (splitWhitespace front).length := by
  have size := congrArg List.length spells.lead
  rw [length_take, length_cons, length_singleton] at size
  omega

theorem two_lt (spells : Spells algo b64 pieces front) (some_ : pieces ≠ []) :
    2 < (splitWhitespace front).length := by
  refine Nat.lt_of_not_le fun short => some_ ?_
  rw [← spells.rest, drop_eq_nil_of_le short]
  rfl

theorem option_after (spells : Spells algo b64 pieces front)
    (separates : Separates (pieces ≠ []) gap) (option : LineOption) :
    Spells algo b64 (pieces ++ option.opening :: option.items.more)
      (front ++ (gap ++ option.text)) := by
  have nonempty := option.text_ne_nil
  have solid := option.solid_text
  obtain ⟨last, ends, endsSolid⟩ := spells.ends
  have begins : option.text.head? = some (option.text.head nonempty) := head?_eq_some_head nonempty
  have behind : Separates (2 < (splitWhitespace front).length) gap :=
    separates.imp_right fun comma => ⟨comma.1, spells.two_lt comma.2⟩
  obtain ⟨lead, rest⟩ := words_separated ends endsSolid begins
    (solid _ (head_mem nonempty)).1 spells.two_le behind
  refine ⟨?_, ?_, ?_, ?_⟩
  · rw [← append_assoc]
    exact ends_solid _ nonempty fun c mem => (solid c mem).1
  · simp only [mem_append, not_or]
    exact ⟨spells.plain, behind.no_hash, fun hash => (solid _ hash).2 rfl⟩
  · rw [lead, spells.lead]
  · rw [rest, spells.rest, option.fragments_text]

end Spells

section Read
variable {ext : External} {decode : List Char → Option (List UInt8)}

theorem spells_key (laws : Base64Laws ext decode) (pubkey : PubKey) {gap : List Char}
    (keyed : Separates False gap) : Spells "ed25519".toList (ext.base64 pubkey).toList []
      ("ed25519".toList ++ (gap ++ (ext.base64 pubkey).toList)) := by
  obtain ⟨nonempty, blank⟩ : gap ≠ [] ∧ ∀ c ∈ gap, isWhitespace c = true :=
    keyed.resolve_right fun comma => comma.2
  have coded := laws.nonempty pubkey
  have plain := laws.plain pubkey
  have words : splitWhitespace ("ed25519".toList ++ (gap ++ (ext.base64 pubkey).toList)) =
      ["ed25519".toList, (ext.base64 pubkey).toList] := by
    rw [splitWhitespace_append_spaces_append _ _ _ blank nonempty,
      splitWhitespace_word (by simp [isWhitespace]) (by decide),
      splitWhitespace_word (fun c mem => (plain c mem).1) coded]
    rfl
  refine ⟨?_, ?_, by rw [words]; rfl, by rw [words]; rfl⟩
  · rw [← append_assoc]
    exact ends_solid _ coded fun c mem => (plain c mem).1
  · simp only [mem_append, not_or]
    exact ⟨by decide, keyed.no_hash, fun hash => (plain _ hash).2 rfl⟩

/-- The options one after the other; the induction is on what has been written so far. -/
theorem spells_options {algo b64 front : List Char} (key : Spells algo b64 [] front)
    (placed : List (List Char × LineOption))
    (separated : ∀ before gap option after, placed = before ++ (gap, option) :: after →
      Separates (before ≠ []) gap) :
    Spells algo b64 ((placed.map Prod.snd).flatMap fun option => option.opening :: option.items.more)
      (front ++ GrammarLine.written placed) := by
  induction placed using List.reverseRecOn with
  | nil => simpa [GrammarLine.written] using key
  | append_singleton before part ih =>
    obtain ⟨gap, option⟩ := part
    have earlier := ih fun first gap other after whole =>
      separated first gap other (after ++ [_]) (by rw [whole, append_assoc]; rfl)
    have behind : Separates ((before.map Prod.snd).flatMap
        (fun option => option.opening :: option.items.more) ≠ []) gap := by
      refine (separated before gap option [] rfl).imp_right fun comma => ⟨comma.1, ?_⟩
      obtain ⟨first, rest, rfl⟩ := exists_cons_of_ne_nil comma.2
      simp
    simpa [GrammarLine.written, flatMap_append] using earlier.option_after behind option

theorem bareLine_comment (comment : Option (List Char)) :
    bareLine (comment.elim [] ('#' :: ·)) = [] := by
  cases comment with
  | none => rfl
  | some => exact congrArg trim (takeWhile_cons_of_neg (by simp))

/-- The comment behind a text that has none. -/
theorem lineComment_behind {front tail : List Char} (plain : '#' ∉ front)
    (blank : ∀ c ∈ tail, isWhitespace c = true) (comment : Option (List Char)) :
    lineComment (front ++ (tail ++ comment.elim [] ('#' :: ·))) =
      ((comment.map trim).filter fun text => !text.isEmpty).map String.ofList := by
  rw [lineComment_eq, dropWhile_append_of_pos (unhashed plain), ← lineComment_eq,
    lineComment_spaces_append _ _ blank]
  cases comment with
  | none => rfl
  | some text =>
    have cut : splitOnce '#' ([] ++ '#' :: text) = some ([], text) :=
      splitOnce_append not_mem_nil text
    rw [nil_append] at cut
    simp only [elim_some, lineComment, cut, map_some, filter_some]
    cases (trim text).isEmpty <;> rfl

/-- A line of the grammar is read as what it was written from. -/
theorem line_grammar (laws : Base64Laws ext decode) (line : GrammarLine) :
    parseLine decode (line.text ext) = some (line.pubkey, line.settings.entry line.remark) := by
  have spells := spells_options (spells_key laws line.pubkey line.keyed) line.placed line.separated
  obtain ⟨last, ends, solid⟩ := spells.ends
  obtain ⟨lead, rest⟩ := words_parted ends solid spells.plain spells.two_le
    (.inl ⟨bareLine_comment line.comment, line.blank⟩)
  have words : splitWhitespace (bareLine (line.text ext)) = "ed25519".toList ::
      (ext.base64 line.pubkey).toList :: (splitWhitespace (bareLine (line.text ext))).drop 2 := by
    conv_lhs => rw [← take_append_drop 2 (splitWhitespace _)]
    rw [show (splitWhitespace (bareLine (line.text ext))).take 2 = _ from lead, spells.lead]
    rfl
  have options : optionPairs ((splitWhitespace (bareLine (line.text ext))).drop 2) =
      (line.placed.map Prod.snd).map fun option => (option.key, option.value) := by
    rw [optionPairs_eq, show fragments ((splitWhitespace (bareLine (line.text ext))).drop 2) = _ from
      rest, spells.rest, bareLine_comment]
    exact (congrArg _ (append_nil _)).trans (LineOption.foldl_addFragment_options _ [])
  have remark : lineComment (line.text ext) = line.remark :=
    lineComment_behind spells.plain line.blank line.comment
  rw [parseLine_eq decode words, options, line.settings.foldl_ordered line.ordered, remark,
    if_neg (fun other => other rfl), laws.decodes, bind_some, ofBytes_toList]
  rfl

end Read

/-- `ed25519 <key> ports=80,90-91,conns=5 # ops`. -/
def portsThenConns : GrammarLine where
  pubkey := frank
  settings := ⟨none, some 5, none, none, some ⟨.port 80, [.range 90 91 (by decide)]⟩, none⟩
  keyGap := [' ']
  placed := [([' '], .ports ⟨.port 80, [.range 90 91 (by decide)]⟩), ([','], .conns 5)]
  tail := [' ']
  comment := some " ops".toList
  keyed := .inl ⟨by decide, forall_mem_singleton.mpr rfl⟩
  ordered := List.Perm.swap _ _ _
  separated before gap option after whole := by
    cases before with
    | nil =>
      cases whole
      exact .inl ⟨by decide, forall_mem_singleton.mpr rfl⟩
    | cons _ rest =>
      cases rest with
      | nil =>
        cases whole
        exact .inr ⟨rfl, cons_ne_nil _ _⟩
      | cons => simp at whole
  blank := forall_mem_singleton.mpr rfl

theorem line_grammar_ports : parseLine Base64.decode (portsThenConns.text standardBase64) =
      some (frank, { AuthorizedEntry.default with
        maxConns := some 5
        allowedPorts := some [80, 90, 91]
        comment := some "ops" }) := by
  rw [line_grammar (base64Laws_standard standardBase64 fun _ => rfl) portsThenConns]
  decide +kernel

end KrotRelay.Guarantees
