import Edm.Errors
import Edm.Network.ChainRule

/-! The commands that an executer runs on its iptables chain, and the chains that they change. -/

set_option autoImplicit false

namespace Edm.IPTABLES

open Library (ascii)

/-- The chains of the factory's executers. -/
inductive ChainName where
  | denyOutput | denyForward | denyInput
  | allowOutput | allowForward | allowInput
  | rejectOutput | rejectForward | rejectInput
  | defaultDenyOutput | defaultDenyForward
  | dnsDenyOutput | dnsDenyForward
  | dnsAllowOutput | dnsAllowForward
  | dnsRejectOutput | dnsRejectForward
  | defaultDnsDenyOutput | defaultDnsDenyForward
  deriving DecidableEq, Repr

def JUMP_OPTION : List UInt8 := ascii " -j "
def JUMP_LOG_OPTION : List UInt8 := ascii " -j LOG --log-prefix "
def JUMP_NFLOG_OPTION : List UInt8 := ascii " -j NFLOG --nflog-group 0 --nflog-prefix "
def LOG_TAG_DROP : List UInt8 := ascii "iptables-edm-drop:"
def LOG_TAG_REJECT : List UInt8 := ascii "iptables-edm-reject:"
def NFLOG : List UInt8 := ascii "NFLOG"
def LOG_FLAG : List UInt8 := ascii "LOG flags"
def RESULT_MIN_SIZE : Nat := 3

/-- `IPTYPE_IPV4` and `IPTYPE_IPV6`. -/
def ipTypeStr : Family → List UInt8
  | .ipv4 => ascii "ipv4-"
  | .ipv6 => ascii "ipv6-"

/-- What a rule of a chain does with a packet. -/
inductive Jump where
  | target (name : List UInt8)
  | log (prefixText : List UInt8)
  | nflog (prefixText : List UInt8)
  deriving DecidableEq, Repr

/-- A rule of a chain, as a command writes it after the chain's name. -/
structure Entry where
  parameter : List UInt8
  jump : Jump
  deriving DecidableEq, Repr

/-- The text of the rule in a command. -/
def Entry.text (entry : Entry) : List UInt8 :=
  match entry.jump with
  | .target name => entry.parameter ++ JUMP_OPTION ++ name
  | .log prefixText => entry.parameter ++ JUMP_LOG_OPTION ++ prefixText
  | .nflog prefixText => entry.parameter ++ JUMP_NFLOG_OPTION ++ prefixText

inductive Command where
  | append (chain : ChainName) (entry : Entry)
  | delete (chain : ChainName) (entry : Entry)
  | flush (chain : ChainName)
  | list (chain : ChainName)
  deriving DecidableEq, Repr

abbrev Chains := ChainName → List Entry

/-- What iptables and the build give: the code for a deletion that finds no rule, and the lines of a
listing. -/
structure Host where
  featurePcOnly : Bool
  noRule : ErrCode
  noRule_ne : noRule ≠ ERR_OK
  /-- The two lines above the rules. -/
  header : List (List UInt8)
  header_length : header.length = 2
  /-- The line of a rule with its number. -/
  line : Nat → Entry → List UInt8

/-- The outcomes of the commands of one request.  A command fails when its code is not `ERR_OK`. -/
abbrev Outcomes := Command → ErrCode

variable (host : Host) (outcomes : Outcomes)

/-- `ExecuterUtils::Execute` for a command that changes a chain.  `-A` appends, `-D` deletes the
first equal rule, `-F` empties the chain. -/
def execute (chains : Chains) (command : Command) : ErrCode × Chains :=
  if outcomes command = ERR_OK then
    match command with
    | .append chain entry =>
      (ERR_OK, Function.update chains chain (chains chain ++ [entry]))
    | .delete chain entry =>
      if entry ∈ chains chain then
        (ERR_OK, Function.update chains chain ((chains chain).erase entry))
      else (host.noRule, chains)
    | .flush chain => (ERR_OK, Function.update chains chain [])
    | .list _ => (ERR_OK, chains)
  else (outcomes command, chains)

/-- The result of `-n -v -L` with line numbers. -/
def listing (entries : List Entry) : List (List UInt8) :=
  host.header ++ entries.zipIdx.map fun row => host.line (row.2 + 1) row.1

/-! ### Executers -/

/-- The option of a command that `ExecWithOption` completes. -/
inductive RuleOption where
  | append | delete
  deriving DecidableEq, Repr

def RuleOption.command (option : RuleOption) (chain : ChainName) (entry : Entry) : Command :=
  match option with
  | .append => .append chain entry
  | .delete => .delete chain entry

/-- The rules before an interception rule that record what it intercepts.  There are none for other
targets. -/
def logEntries (rule : ChainRule) (ipType : Family) (logType : LogType) : List Entry :=
  if rule.target = REJECT_TARGET ∨ rule.target = DROP_TARGET then
    let tag := ipTypeStr ipType ++
      (if rule.target = REJECT_TARGET then LOG_TAG_REJECT else LOG_TAG_DROP)
    ⟨rule.parameter false, .log tag⟩ ::
      (if host.featurePcOnly && logType = .nflog then [⟨rule.parameter false, .nflog tag⟩] else [])
  else []

/-- The rule itself. -/
def targetEntry (rule : ChainRule) : Entry := ⟨rule.parameter false, .target rule.target⟩

/-- Commands whose codes are only logged. -/
def executeAll (chains : Chains) (commands : List Command) : Chains :=
  commands.foldl (fun chains command => (execute host outcomes chains command).2) chains

def execWithOption (chains : Chains) (option : RuleOption) (chain : ChainName) (rule : ChainRule)
    (ipType : Family) (logType : LogType) : ErrCode × Chains :=
  let logs := (logEntries host rule ipType logType).map (option.command chain)
  execute host outcomes (executeAll host outcomes chains logs)
    (option.command chain (targetEntry rule))

/-- `IExecuter::Add`.  The managers pass no null rule. -/
def add (chains : Chains) (chain : ChainName) (rule : ChainRule) (ipType : Family)
    (logType : LogType) : ErrCode × Chains :=
  execWithOption host outcomes chains .append chain rule ipType logType

/-- `IExecuter::Remove`, where a null rule is `none`. -/
def remove (chains : Chains) (chain : ChainName) (rule : Option ChainRule) (ipType : Family)
    (logType : LogType) : ErrCode × Chains :=
  match rule with
  | none => execute host outcomes chains (.flush chain)
  | some rule =>
    if (rule.parameter true).isEmpty then execute host outcomes chains (.flush chain)
    else execWithOption host outcomes chains .delete chain rule ipType logType

/-- A text has another one in it. -/
def occurs (pattern text : List UInt8) : Bool := (Library.afterFirst pattern text).isSome

/-- The loop of `GetAll` over the lines of the rules. -/
def collectRules : Bool → List (List UInt8) → List (List UInt8)
  | _, [] => []
  | haveNflog, line :: ruleLines =>
    let haveNflog := if occurs NFLOG line then true else haveNflog
    -- A rule whose own NFLOG line is gone must not take that of an earlier one.
    let haveNflog := if occurs LOG_FLAG line then false else haveNflog
    if occurs LOG_TAG_REJECT line then collectRules haveNflog ruleLines
    else if occurs LOG_TAG_DROP line then collectRules haveNflog ruleLines
    else (if haveNflog then line ++ NFLOG else line) :: collectRules false ruleLines

/-- What `GetAll` takes from the lines of a listing. -/
def rulesOfLines (ruleLines : List (List UInt8)) : List (List UInt8) :=
  if ruleLines.length < RESULT_MIN_SIZE then []
  else collectRules false (ruleLines.drop (RESULT_MIN_SIZE - 1))

/-- `IExecuter::GetAll`: the lines that are added to the list. -/
def getAll (chains : Chains) (chain : ChainName) : ErrCode × List (List UInt8) :=
  if outcomes (.list chain) = ERR_OK then (ERR_OK, rulesOfLines (listing host (chains chain)))
  else (outcomes (.list chain), [])

/-! ### What a command changes -/

/-- The chain that a command works on. -/
def Command.chain : Command → ChainName
  | append chain _ => chain
  | delete chain _ => chain
  | flush chain => chain
  | list chain => chain

@[simp] theorem RuleOption.command_chain (option : RuleOption) (chain : ChainName) (entry : Entry) :
    (option.command chain entry).chain = chain := by
  cases option <;> rfl

variable {host outcomes}

theorem execute_of_ne {chains : Chains} {command : Command} {chain : ChainName}
    (h : chain ≠ command.chain) :
    (execute host outcomes chains command).2 chain = chains chain := by
  unfold execute
  split
  · split
    · exact Function.update_of_ne h _ _
    · split
      · exact Function.update_of_ne h _ _
      · rfl
    · exact Function.update_of_ne h _ _
    · rfl
  · rfl

/-- What a command leaves of its chain depends on nothing else. -/
theorem execute_congr {chains chains' : Chains} {command : Command} {chain : ChainName}
    (h : chains chain = chains' chain) :
    (execute host outcomes chains command).2 chain =
      (execute host outcomes chains' command).2 chain := by
  by_cases hchain : chain = command.chain
  · subst hchain
    unfold execute
    by_cases hok : outcomes command = ERR_OK
    · rw [if_pos hok, if_pos hok]
      cases command with
      | append chain entry =>
        show Function.update chains chain _ chain = Function.update chains' chain _ chain
        rw [Function.update_self, Function.update_self, show chains chain = chains' chain from h]
      | delete chain entry =>
        have h' : chains chain = chains' chain := h
        show (if entry ∈ chains chain then _ else _ : ErrCode × Chains).2 chain =
          (if entry ∈ chains' chain then _ else _ : ErrCode × Chains).2 chain
        rw [h']
        split
        · show Function.update chains chain _ chain = Function.update chains' chain _ chain
          rw [Function.update_self, Function.update_self]
        · exact h
      | flush chain =>
        show Function.update chains chain _ chain = Function.update chains' chain _ chain
        rw [Function.update_self, Function.update_self]
      | list chain => exact h
    · rw [if_neg hok, if_neg hok]
      exact h
  · rw [execute_of_ne hchain, execute_of_ne hchain, h]

theorem execute_append (chains : Chains) (chain : ChainName) (entry : Entry) :
    (execute host outcomes chains (.append chain entry)).2 chain =
      chains chain ++ if outcomes (.append chain entry) = ERR_OK then [entry] else [] := by
  unfold execute
  split
  · exact Function.update_self ..
  · exact (List.append_nil _).symm

theorem execute_delete (chains : Chains) (chain : ChainName) (entry : Entry) :
    (execute host outcomes chains (.delete chain entry)).2 chain =
      if outcomes (.delete chain entry) = ERR_OK then (chains chain).erase entry
      else chains chain := by
  unfold execute
  split
  · show (if entry ∈ chains chain then _ else _ : ErrCode × Chains).2 chain = _
    split
    · exact Function.update_self ..
    · rename_i hnot
      exact (List.erase_of_not_mem hnot).symm
  · rfl

theorem execute_flush (chains : Chains) (chain : ChainName) :
    (execute host outcomes chains (.flush chain)).2 chain =
      if outcomes (.flush chain) = ERR_OK then [] else chains chain := by
  unfold execute
  split
  · exact Function.update_self ..
  · rfl

theorem executeAll_of_ne {chains : Chains} {commands : List Command} {chain : ChainName}
    (h : ∀ command ∈ commands, chain ≠ command.chain) :
    executeAll host outcomes chains commands chain = chains chain := by
  induction commands generalizing chains with
  | nil => rfl
  | cons command commands ih =>
    obtain ⟨hcommand, hcommands⟩ := List.forall_mem_cons.mp h
    exact (ih hcommands).trans (execute_of_ne hcommand)

theorem executeAll_congr {chains chains' : Chains} {commands : List Command} {chain : ChainName}
    (h : chains chain = chains' chain) :
    executeAll host outcomes chains commands chain =
      executeAll host outcomes chains' commands chain := by
  induction commands generalizing chains chains' with
  | nil => exact h
  | cons command commands ih => exact ih (execute_congr h)

/-! ### What an executer changes -/

section Executers

variable {chains chains' : Chains} {chain other : ChainName} {rule : ChainRule} {ipType : Family}
  {logType : LogType}

theorem execWithOption_of_ne {option : RuleOption} (h : other ≠ chain) :
    (execWithOption host outcomes chains option chain rule ipType logType).2 other =
      chains other := by
  have hlogs : ∀ command ∈ (logEntries host rule ipType logType).map (option.command chain),
      other ≠ command.chain := by
    intro command hcommand
    obtain ⟨entry, _, rfl⟩ := List.mem_map.mp hcommand
    rw [RuleOption.command_chain]
    exact h
  have htarget : other ≠ (option.command chain (targetEntry rule)).chain := by
    rw [RuleOption.command_chain]
    exact h
  exact (execute_of_ne htarget).trans (executeAll_of_ne hlogs)

theorem add_of_ne (h : other ≠ chain) :
    (add host outcomes chains chain rule ipType logType).2 other = chains other :=
  execWithOption_of_ne h

theorem remove_empty (h : (rule.parameter true).isEmpty = true) :
    remove host outcomes chains chain (some rule) ipType logType =
      execute host outcomes chains (.flush chain) :=
  if_pos h

theorem remove_nonempty (h : ¬ (rule.parameter true).isEmpty = true) :
    remove host outcomes chains chain (some rule) ipType logType =
      execWithOption host outcomes chains .delete chain rule ipType logType :=
  if_neg h

theorem remove_of_ne {rule : Option ChainRule} (h : other ≠ chain) :
    (remove host outcomes chains chain rule ipType logType).2 other = chains other := by
  have hflush : other ≠ (Command.flush chain).chain := h
  cases rule with
  | none => exact @execute_of_ne host outcomes chains (.flush chain) other hflush
  | some rule =>
    by_cases hempty : (rule.parameter true).isEmpty = true
    · rw [remove_empty hempty]
      exact execute_of_ne hflush
    · rw [remove_nonempty hempty]
      exact execWithOption_of_ne h

theorem remove_congr {rule : Option ChainRule} (h : chains other = chains' other) :
    (remove host outcomes chains chain rule ipType logType).2 other =
      (remove host outcomes chains' chain rule ipType logType).2 other := by
  cases rule with
  | none => exact @execute_congr host outcomes chains chains' (.flush chain) other h
  | some rule =>
    by_cases hempty : (rule.parameter true).isEmpty = true
    · rw [remove_empty hempty, remove_empty hempty]
      exact execute_congr h
    · rw [remove_nonempty hempty, remove_nonempty hempty]
      exact execute_congr (executeAll_congr h)

/-- The rules that an addition appends. -/
theorem add_chain :
    (add host outcomes chains chain rule ipType logType).2 chain =
      chains chain ++ (logEntries host rule ipType logType ++ [targetEntry rule]).filter
        fun entry => outcomes (.append chain entry) = ERR_OK := by
  have hall : ∀ (entries : List Entry) (chains : Chains),
      executeAll host outcomes chains (entries.map (RuleOption.append.command chain)) chain =
        chains chain ++ entries.filter fun entry => outcomes (.append chain entry) = ERR_OK := by
    intro entries
    induction entries with
    | nil => exact fun chains => (List.append_nil _).symm
    | cons entry entries ih =>
      intro chains
      show executeAll host outcomes
        (execute host outcomes chains (.append chain entry)).2 _ chain = _
      rw [ih, execute_append, List.append_assoc, List.filter_cons]
      by_cases hok : outcomes (.append chain entry) = ERR_OK
      · simp only [hok, if_true, decide_true, List.singleton_append]
      · simp only [hok, if_false, decide_false, Bool.false_eq_true, List.nil_append]
  show (execute host outcomes (executeAll host outcomes chains _) (.append chain _)).2 chain = _
  rw [execute_append, hall, List.append_assoc, List.filter_append, List.filter_singleton]
  by_cases hok : outcomes (.append chain (targetEntry rule)) = ERR_OK
  · simp only [hok, if_true, decide_true, cond_true]
  · simp only [hok, if_false, decide_false, cond_false]

theorem logEntries_of_accept (h : rule.target = ACCEPT_TARGET) :
    logEntries host rule ipType logType = [] := by
  have hne : ¬ (rule.target = REJECT_TARGET ∨ rule.target = DROP_TARGET) := by
    rw [h]
    decide
  exact if_neg hne

end Executers

/-! ### What a listing tells -/

/-- A host whose listings are those of one rule in a chain. -/
def sampleHost : Host where
  featurePcOnly := true
  noRule := 1
  noRule_ne := by decide
  header := [ascii "Chain", ascii "num   pkts bytes target     prot opt in     out     source"]
  header_length := rfl
  line _ entry :=
    match entry.jump with
    | .target name =>
      if name = ACCEPT_TARGET then
        ascii "1        0     0 ACCEPT     tcp  --  *      *       0.0.0.0/0            0.0.0.0/0"
      else
        ascii "1        0     0 DROP       tcp  --  *      *       0.0.0.0/0            0.0.0.0/0"
    | .log prefixText => ascii "LOG flags 0 level 4 prefix " ++ prefixText
    | .nflog prefixText => ascii "nflog-prefix " ++ prefixText

end Edm.IPTABLES
