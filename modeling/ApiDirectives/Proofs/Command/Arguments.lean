import ApiDirectives.Command.Run

/-!
# Arguments that two commands share

A command that knows more switches reads arguments in the same way as one that knows fewer, as long
as the latter reads them at all: no name belongs to two switches, and a name that only the larger
command knows is refused by the smaller one. The commands that compile also ask the same of a
request, in which nothing stands that no switch has said.
-/

namespace ApiDirectives

open Text

/-! ## Names of switches -/

/-- A name belongs to one switch. -/
theorem Switch.eq_of_mem_names {s t : Switch} {name : String} (hs : name ∈ s.names)
    (ht : name ∈ t.names) : s = t := by
  -- The command that writes documents knows all switches.
  have howner : ∀ {s : Switch}, name ∈ s.names →
      switchNamed? Command.generate.switches name = some s := by
    intro s hs
    cases s <;> simp only [names, List.mem_cons, List.not_mem_nil, or_false] at hs <;>
      rcases hs with rfl | rfl <;> decide
  exact Option.some.inj ((howner hs).symm.trans (howner ht))

theorem switchNamed?_eq_some_iff {known : List Switch} {name : String} {s : Switch} :
    switchNamed? known name = some s ↔ s ∈ known ∧ name ∈ s.names := by
  unfold switchNamed?
  constructor
  · intro h
    have hname := List.find?_some h
    exact ⟨List.mem_of_find?_eq_some h, List.contains_iff_mem.mp hname⟩
  · rintro ⟨hs, hname⟩
    cases hfound : known.find? (·.names.contains name) with
    | none =>
      exact absurd (List.contains_iff_mem.mpr hname) (List.find?_eq_none.mp hfound s hs)
    | some t =>
      have ht := List.find?_some hfound
      rw [Switch.eq_of_mem_names (List.contains_iff_mem.mp ht) hname]

/-- The switches with a long name. -/
def longNamed (known : List Switch) (name : String) : List Switch :=
  known.filter fun s => s.names.any fun n => isLong n && n == name

theorem mem_longNamed {known : List Switch} {name : String} {s : Switch} :
    s ∈ longNamed known name ↔ s ∈ known ∧ isLong name = true ∧ name ∈ s.names := by
  rw [longNamed, List.mem_filter, List.any_eq_true]
  refine and_congr_right fun _ => ?_
  constructor
  · rintro ⟨n, hn, h⟩
    obtain ⟨hlong, heq⟩ := Bool.and_eq_true_iff.mp h
    rw [beq_iff_eq] at heq
    subst heq
    exact ⟨hlong, hn⟩
  · rintro ⟨hlong, hn⟩
    exact ⟨name, hn, by rw [hlong, beq_self_eq_true]; rfl⟩

/-- The first switch with a long name is the only one, also among more. -/
theorem longNamed_mono {known more : List Switch} (h : known ⊆ more) {name : String} {s : Switch}
    {others : List Switch} (hs : longNamed known name = s :: others) :
    ∃ others', longNamed more name = s :: others' := by
  have hmem : s ∈ longNamed known name := hs ▸ List.mem_cons_self
  obtain ⟨hknown, hlong, hname⟩ := mem_longNamed.mp hmem
  cases hmore : longNamed more name with
  | nil =>
    have hno : s ∈ longNamed more name := mem_longNamed.mpr ⟨h hknown, hlong, hname⟩
    rw [hmore] at hno
    cases hno
  | cons t others' =>
    have ht : t ∈ longNamed more name := hmore ▸ List.mem_cons_self
    rw [Switch.eq_of_mem_names (mem_longNamed.mp ht).2.2 hname]
    exact ⟨others', rfl⟩

theorem isSome_dropLiteral?_iff {lit cs : List Char} :
    (dropLiteral? lit cs).isSome = true ↔ lit <+: cs := by
  fun_induction dropLiteral? lit cs with
  | case1 cs => simp
  | case2 p ps => simp
  | case3 p ps cs ih => simp [ih]
  | case4 p ps c cs hne => simp [hne]

/-- An argument is long if the name in it is. -/
theorem isLong_of_splitValue {argument : String} (h : isLong (splitValue argument).1 = true) :
    isLong argument = true := by
  unfold splitValue at h
  dsimp only at h
  split at h
  · exact h
  · unfold isLong at h ⊢
    rw [isSome_dropLiteral?_iff] at h ⊢
    simp only [String.toList_ofList] at h
    exact h.trans (List.takeWhile_prefix _)

theorem switchesOf_eq (known : List Switch) (argument : String) :
    switchesOf known argument =
      match longNamed known (splitValue argument).1, (splitValue argument).2 with
      | s :: _, some value =>
        if s.takesValue then .ok ([(s, value)], none)
        else .error (.valueUnwanted (splitValue argument).1)
      | s :: _, none =>
        if s.takesValue then .ok ([], some ((splitValue argument).1, s)) else .ok ([(s, "")], none)
      | [], _ =>
        if isLong argument then
          .error (.unknownSwitch (splitValue argument).1
            (similarNames (splitValue argument).1 (known.flatMap fun s => s.names.filter isLong)))
        else shortSwitches known (argument.toList.drop 1) :=
  rfl

theorem map_eq_ok_iff {ε α β : Type} {x : Except ε α} {f : α → β} {b : β} :
    x.map f = .ok b ↔ ∃ a, x = .ok a ∧ f a = b := by
  cases x with
  | error e => simp [Except.map]
  | ok a => simp [Except.map]

/-! ## Reading with more switches -/

section More

variable {known more : List Switch}

theorem shortSwitches_mono (h : known ⊆ more) {cs : List Char}
    {found : List (Switch × String) × Option (String × Switch)}
    (hfound : shortSwitches known cs = .ok found) : shortSwitches more cs = .ok found := by
  induction cs generalizing found with
  | nil => exact hfound
  | cons c r ih =>
    rw [shortSwitches] at hfound ⊢
    dsimp only at hfound ⊢
    split at hfound
    · cases hfound
    · rename_i s hs
      obtain ⟨hknown, hname⟩ := switchNamed?_eq_some_iff.mp hs
      rw [switchNamed?_eq_some_iff.mpr ⟨h hknown, hname⟩]
      dsimp only
      split at hfound
      · rename_i hvalue
        rw [if_pos hvalue]
        exact hfound
      · rename_i hvalue
        obtain ⟨rest, hrest, rfl⟩ := map_eq_ok_iff.mp hfound
        rw [if_neg hvalue, ih hrest]
        rfl

theorem switchesOf_mono (h : known ⊆ more) {argument : String}
    {found : List (Switch × String) × Option (String × Switch)}
    (hfound : switchesOf known argument = .ok found) : switchesOf more argument = .ok found := by
  rw [switchesOf_eq] at hfound ⊢
  cases hlong : longNamed known (splitValue argument).1 with
  | cons s others =>
    obtain ⟨others', hmore⟩ := longNamed_mono h hlong
    rw [hlong] at hfound
    rw [hmore]
    cases hvalue : (splitValue argument).2 with
    | none =>
      rw [hvalue] at hfound
      exact hfound
    | some value =>
      rw [hvalue] at hfound
      exact hfound
  | nil =>
    rw [hlong] at hfound
    dsimp only at hfound
    split at hfound
    · cases hfound
    · -- No argument that is short here is long for others: the length shows in the argument.
      rename_i hshort
      have hnone : longNamed more (splitValue argument).1 = [] := by
        refine List.eq_nil_iff_forall_not_mem.mpr fun s hs => hshort ?_
        exact isLong_of_splitValue (mem_longNamed.mp hs).2.1
      rw [hnone]
      dsimp only
      rw [if_neg hshort]
      exact shortSwitches_mono h hfound

/-- Arguments that fewer switches are enough for are read in the same way with more. -/
theorem readArguments_mono (h : known ⊆ more) {mixed : Bool} {arguments : List String}
    {a : Arguments} (ha : readArguments known mixed arguments = .ok a) :
    readArguments more mixed arguments = .ok a := by
  fun_induction readArguments known mixed arguments generalizing a with
  | case1 => exact ha
  | case2 rest =>
    rw [readArguments, if_pos rfl]
    exact ha
  | case3 argument rest hdashes hswitch e he => cases ha
  | case4 argument rest hdashes hswitch ss hof ih =>
    obtain ⟨b, hb, rfl⟩ := map_eq_ok_iff.mp ha
    rw [readArguments, if_neg hdashes, if_pos hswitch, switchesOf_mono h hof]
    exact map_eq_ok_iff.mpr ⟨b, ih hb, rfl⟩
  | case5 argument hdashes hswitch ss name s hof => cases ha
  | case6 argument hdashes hswitch ss name s hof value rest ih =>
    obtain ⟨b, hb, rfl⟩ := map_eq_ok_iff.mp ha
    rw [readArguments, if_neg hdashes, if_pos hswitch, switchesOf_mono h hof]
    exact map_eq_ok_iff.mpr ⟨b, ih hb, rfl⟩
  | case7 argument rest hdashes hoperand hmixed ih =>
    obtain ⟨b, hb, rfl⟩ := map_eq_ok_iff.mp ha
    rw [readArguments, if_neg hdashes, if_neg hoperand, if_pos hmixed]
    exact map_eq_ok_iff.mpr ⟨b, ih hb, rfl⟩
  | case8 argument rest hdashes hoperand hmixed =>
    rw [readArguments, if_neg hdashes, if_neg hoperand, if_neg hmixed]
    exact ha

end More

/-! ## Only known switches -/

section Known

variable {known : List Switch}

theorem mem_known_of_shortSwitches {cs : List Char} {ss : List (Switch × String)}
    {last : Option (String × Switch)} (h : shortSwitches known cs = .ok (ss, last)) :
    (∀ p ∈ ss, p.1 ∈ known) ∧ ∀ p ∈ last, p.2 ∈ known := by
  induction cs generalizing ss last with
  | nil =>
    cases h
    simp
  | cons c r ih =>
    rw [shortSwitches] at h
    dsimp only at h
    split at h
    · cases h
    · rename_i s hs
      obtain ⟨hknown, _⟩ := switchNamed?_eq_some_iff.mp hs
      split at h
      · split at h
        · cases h
          simpa using hknown
        · cases h
          simpa using hknown
      · obtain ⟨⟨ss', last'⟩, hrest, hfound⟩ := map_eq_ok_iff.mp h
        cases hfound
        obtain ⟨hss, hlast⟩ := ih hrest
        exact ⟨List.forall_mem_cons.mpr ⟨hknown, hss⟩, hlast⟩

theorem mem_known_of_switchesOf {argument : String} {ss : List (Switch × String)}
    {last : Option (String × Switch)} (h : switchesOf known argument = .ok (ss, last)) :
    (∀ p ∈ ss, p.1 ∈ known) ∧ ∀ p ∈ last, p.2 ∈ known := by
  rw [switchesOf_eq] at h
  -- Without a long name that fits, the argument is read letter by letter.
  cases hlong : longNamed known (splitValue argument).1 with
  | nil =>
    rw [hlong] at h
    dsimp only at h
    split at h
    · cases h
    · exact mem_known_of_shortSwitches h
  | cons s others =>
    have hmem : s ∈ longNamed known (splitValue argument).1 := hlong ▸ List.mem_cons_self
    have hknown : s ∈ known := (mem_longNamed.mp hmem).1
    rw [hlong] at h
    cases hvalue : (splitValue argument).2 with
    | none =>
      rw [hvalue] at h
      dsimp only at h
      split at h
      · cases h
        simpa using hknown
      · cases h
        simpa using hknown
    | some value =>
      rw [hvalue] at h
      dsimp only at h
      split at h
      · cases h
        simpa using hknown
      · cases h

/-- Only known switches are read. -/
theorem mem_known_of_readArguments {mixed : Bool} {arguments : List String} {a : Arguments}
    (h : readArguments known mixed arguments = .ok a) : ∀ p ∈ a.switches, p.1 ∈ known := by
  fun_induction readArguments known mixed arguments generalizing a with
  | case1 =>
    cases h
    simp
  | case2 rest =>
    cases h
    simp
  | case3 argument rest hdashes hswitch e he => cases h
  | case4 argument rest hdashes hswitch ss hof ih =>
    obtain ⟨b, hb, rfl⟩ := map_eq_ok_iff.mp h
    exact List.forall_mem_append.mpr ⟨(mem_known_of_switchesOf hof).1, ih hb⟩
  | case5 argument hdashes hswitch ss name s hof => cases h
  | case6 argument hdashes hswitch ss name s hof value rest ih =>
    obtain ⟨b, hb, rfl⟩ := map_eq_ok_iff.mp h
    obtain ⟨hss, hlast⟩ := mem_known_of_switchesOf hof
    refine List.forall_mem_append.mpr ⟨List.forall_mem_append.mpr ⟨hss, ?_⟩, ih hb⟩
    exact List.forall_mem_singleton.mpr (hlast _ rfl)
  | case7 argument rest hdashes hoperand hmixed ih =>
    obtain ⟨b, hb, rfl⟩ := map_eq_ok_iff.mp h
    intro p hp
    exact ih hb p hp
  | case8 argument rest hdashes hoperand hmixed =>
    cases h
    simp

end Known

/-! ## Requests -/

/-- What a request says of the output, the format and strictness, if some switches were given. -/
structure Request.Reflects (r : Request) (given : List Switch) : Prop where
  output : r.output.isSome = true ↔ .output ∈ given
  format : r.format.isSome = true ↔ .format ∈ given
  strict : r.strict = true ↔ .strict ∈ given

/-- One more switch is one more that a request reflects. -/
theorem Request.Reflects.add {f : Files} {a : Arguments} {r r' : Request} {given : List Switch}
    (hr : r.Reflects given) {s : Switch} (h : r.add f a s = .ok r') :
    r'.Reflects (given ++ [s]) := by
  have hset : (r'.output.isSome = true ↔ r.output.isSome = true ∨ .output = s) ∧
      (r'.format.isSome = true ↔ r.format.isSome = true ∨ .format = s) ∧
      (r'.strict = true ↔ r.strict = true ∨ .strict = s) := by
    cases s <;> simp only [Request.add, map_eq_ok_iff, Except.ok.injEq] at h
    case format | config | logFile =>
      obtain ⟨_, _, rfl⟩ := h
      simp
    all_goals
      subst h
      simp
  obtain ⟨houtput, hformat, hstrict⟩ := hset
  constructor
  · rw [houtput, hr.output, List.mem_append, List.mem_singleton]
  · rw [hformat, hr.format, List.mem_append, List.mem_singleton]
  · rw [hstrict, hr.strict, List.mem_append, List.mem_singleton]

theorem Request.Reflects.addAll {f : Files} {a : Arguments} {r r' : Request} {given : List Switch}
    (hr : r.Reflects given) {ss : List Switch} (h : ss.foldlM (Request.add f a) r = .ok r') :
    r'.Reflects (given ++ ss) := by
  induction ss generalizing r given with
  | nil =>
    cases h
    rw [List.append_nil]
    exact hr
  | cons s ss ih =>
    rw [List.foldlM_cons] at h
    cases hs : Request.add f a r s with
    | error fault =>
      rw [hs] at h
      cases h
    | ok next =>
      rw [hs] at h
      rw [List.append_cons]
      exact ih (hr.add hs) h

namespace Command

variable {f : Files} {a : Arguments} {r : Request}

/-- The commands that compile ask the same of the same arguments. -/
theorem request_check_eq_generate (f : Files) (a : Arguments) :
    Command.check.request f a = Command.generate.request f a := by
  unfold request
  cases a.operands with
  | nil => rfl
  | cons path rest => rfl

/-- A request says what the switches say. -/
theorem request_reflects {c : Command} (h : c.request f a = .ok r) :
    r.Reflects (a.switches.map Prod.fst) := by
  unfold request at h
  cases hfold : (a.switches.map Prod.fst).eraseDups.foldlM (Request.add f a) {} with
  | error fault =>
    rw [hfold] at h
    cases h
  | ok base =>
    have hbase : base.Reflects ([] ++ (a.switches.map Prod.fst).eraseDups) :=
      Request.Reflects.addAll ⟨by simp, by simp, by simp⟩ hfold
    rw [hfold] at h
    cases hoperand : c.operandOf f a.operands with
    | error fault =>
      rw [hoperand] at h
      cases h
    | ok operand =>
      rw [hoperand] at h
      cases hextra : a.operands.drop 1 with
      | cons path extra =>
        rw [hextra] at h
        cases h
      | nil =>
        rw [hextra] at h
        cases h
        refine ⟨hbase.output.trans ?_, hbase.format.trans ?_, hbase.strict.trans ?_⟩
        all_goals rw [List.nil_append, List.mem_eraseDups]

end Command

end ApiDirectives
