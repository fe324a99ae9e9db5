import ApiDirectives.Proofs.Assembly.Header

/-!
# Webhooks of an assembled draft

While a block is merged, bodies and responses go to the last webhook of the block, if it was accepted.
What this comes to is said of each directive in its context, a `Mention`: with the blocks before, and
the directives above and below it in its own block. A webhook is what is written below it up to the next
webhook, so the webhooks of a draft are the first ones of their names (`webhooks_eq_firstOf`), and a
directive is reported exactly if it declares a name again or has no accepted webhook above it
(`Mention.found`).
-/

namespace ApiDirectives

open Header

namespace Directive

/-- Whether a directive declares a webhook. -/
def isWebhook : Directive → Bool
  | .webhook .. => true
  | _ => false

/-- The name of the webhook that a directive at a place declares, and the place. -/
@[simp]
def webhookAt? (location : Location) : Directive → Option (String × Location)
  | .webhook name _ _ => some (name, location)
  | _ => none

/-- The body that a directive gives to a webhook. -/
@[simp]
def webhookBody? : Directive → Option Payload
  | .webhookBody payload => some payload
  | _ => none

/-- The response that a directive gives to a webhook, with its status. -/
@[simp]
def webhookReply? : Directive → Option (String × Reply)
  | .webhookResponse reply => some (reply.status, reply)
  | _ => none

theorem exists_webhook {d : Directive} (h : d.isWebhook = true) :
    ∃ name method description, d = .webhook name method description := by
  cases d <;> first | exact ⟨_, _, _, rfl⟩ | cases h

end Directive

/-! ## What is written below a webhook -/

/-- The directives up to the next webhook. -/
def attached (below : List Directive) : List Directive :=
  below.takeWhile (!·.isWebhook)

/-- The webhook that a directive at a place declares, if it declares one. Its body is the last one, and
its responses those written below it, up to the next webhook. -/
def webhookOf? (location : Location) (below : List Directive) :
    Directive → Option (String × WebhookDraft)
  | .webhook name method description =>
    some (name, {
      name, method, description, location
      body := ((attached below).filterMap Directive.webhookBody?).getLast?
      responses := Table.lastOf ((attached below).filterMap Directive.webhookReply?) })
  | _ => none

namespace WebhookDraft

/-- Adds what one directive says about a webhook. -/
def addPart (w : WebhookDraft) : Directive → WebhookDraft
  | .webhookBody payload => { w with body := some payload }
  | .webhookResponse reply => { w with responses := w.responses.put reply.status reply }
  | _ => w

theorem foldl_addPart {w : WebhookDraft} (hbody : w.body = none) (hresponses : w.responses = [])
    (parts : List Directive) :
    parts.foldl addPart w =
      { w with
        body := (parts.filterMap Directive.webhookBody?).getLast?
        responses := Table.lastOf (parts.filterMap Directive.webhookReply?) } := by
  induction parts using List.reverseRecOn with
  | nil =>
    cases w
    cases hbody
    cases hresponses
    rfl
  | append_singleton parts d ih =>
    rw [List.foldl_append, ih, List.filterMap_append, List.filterMap_append]
    cases d <;> simp [addPart, List.filterMap_cons, Table.lastOf_concat]

end WebhookDraft

/-- Adds directives to the webhook of a name, if there is one. -/
def attachTo (name : Option String) (parts : List Directive) (webhooks : Table String WebhookDraft) :
    Table String WebhookDraft :=
  match name with
  | none => webhooks
  | some name => webhooks.adjust name fun w => parts.foldl WebhookDraft.addPart w

theorem attachTo_nil (name : Option String) (webhooks : Table String WebhookDraft) :
    attachTo name [] webhooks = webhooks := by
  cases name with
  | none => rfl
  | some name => exact Table.adjust_self webhooks name

/-- One directive, and then more of them. -/
theorem attachTo_cons (name : Option String) (d : Directive) (parts : List Directive)
    (webhooks : Table String WebhookDraft) :
    attachTo name (d :: parts) webhooks = attachTo name parts (attachTo name [d] webhooks) := by
  cases name with
  | none => rfl
  | some name =>
    simp only [attachTo, Table.adjust_adjust]
    rfl

/-- The webhooks that directives of a block declare. -/
def webhooksIn (location : Location) (ds : List Directive) : List (String × WebhookDraft) :=
  (inContext ds).filterMap fun (_, d, below) => webhookOf? location below d

theorem webhooksIn_cons (location : Location) (d : Directive) (ds : List Directive) :
    webhooksIn location (d :: ds) = (webhookOf? location ds d).toList ++ webhooksIn location ds := by
  unfold webhooksIn
  rw [inContext, List.filterMap_cons, List.filterMap_map]
  cases h : webhookOf? location ds d <;> simp [h]

/-- A directive that declares no webhook is added to the one that is open. -/
theorem step_attaches (location : Location) (m : Merge) {d : Directive} (h : d.isWebhook = false) :
    (Merge.step location m d).webhook = m.webhook ∧
      (Merge.step location m d).header.webhooks = attachTo m.webhook [d] m.header.webhooks := by
  have hrest : (∀ w, WebhookDraft.addPart w d = w) →
      attachTo m.webhook [d] m.header.webhooks = m.header.webhooks := by
    intro hd
    cases hopen : m.webhook <;> simp [attachTo, hd, Table.adjust_self]
  cases d with
  | webhook => cases h
  | webhookBody payload =>
    cases hopen : m.webhook <;>
      simp [Merge.step, Merge.onWebhook, Merge.report, hopen, attachTo, WebhookDraft.addPart]
  | webhookResponse reply =>
    cases hopen : m.webhook <;>
      simp [Merge.step, Merge.onWebhook, Merge.report, hopen, attachTo, WebhookDraft.addPart]
  | _ => exact ⟨rfl, (hrest fun _ => rfl).symm⟩

/-- The directives of a block go to the webhook that is open, up to the next one, and the webhooks that
they declare are put where their names are new. -/
theorem foldl_step_webhooks (location : Location) (ds : List Directive) (m : Merge) :
    (ds.foldl (Merge.step location) m).header.webhooks =
      (webhooksIn location ds).foldl (fun t entry => t.putNew entry.1 entry.2)
        (attachTo m.webhook (attached ds) m.header.webhooks) := by
  induction ds generalizing m with
  | nil => exact (attachTo_nil m.webhook m.header.webhooks).symm
  | cons d ds ih =>
    rw [List.foldl_cons, ih, webhooksIn_cons, List.foldl_append]
    congr 1
    cases hd : d.isWebhook with
    | false =>
      obtain ⟨hopen, hwebhooks⟩ := step_attaches location m hd
      have hnone : webhookOf? location ds d = none := by
        cases d <;> first | rfl | cases hd
      have hattached : attached (d :: ds) = d :: attached ds := by simp [attached, hd]
      rw [hopen, hwebhooks, hnone, hattached]
      exact (attachTo_cons m.webhook d (attached ds) m.header.webhooks).symm
    | true =>
      obtain ⟨name, method, description, rfl⟩ := Directive.exists_webhook hd
      have hattached : attached (.webhook name method description :: ds) = [] := rfl
      rw [hattached, attachTo_nil]
      cases hget : m.header.webhooks.get? name with
      | some first =>
        -- The name is taken: the parts that follow go nowhere.
        simp only [Merge.step, Merge.addWebhook, hget]
        exact (Table.putNew_of_get? hget _).symm
      | none =>
        simp only [Merge.step, Merge.addWebhook, hget]
        rw [attachTo, Table.adjust_put, WebhookDraft.foldl_addPart rfl rfl]
        exact (Table.putNew_eq_put hget _).symm

/-! ## Directives in context -/

/-- What comes before a directive: the blocks before its own, the place of its own one, and the
directives above it there. -/
structure Context where
  before : List Block
  location : Location
  above : List Directive

/-- A directive with what comes before it, and with the directives below it in its block. -/
structure Mention extends Context where
  directive : Directive
  below : List Directive

/-- The directives of a block in their contexts. -/
def Block.mentions (before : List Block) (b : Block) : List Mention :=
  (inContext (b.kept.map (·.directive))).map fun (above, directive, below) =>
    { before, location := b.location, above, directive, below }

/-- The directives on the interface as a whole, of all blocks in order, in their contexts. -/
def mentions (blocks : List Block) : List Mention :=
  inTurn (fun before block => if block.role = .api then block.mentions before else []) blocks

/-- The place where directives first declare a webhook of a name. -/
def declaredAt? (ds : List (Location × Directive)) (name : String) : Option Location :=
  Table.get? (said Directive.webhookAt? ds) name

namespace Context

/-- The directives before, of all blocks. -/
def past (c : Context) : List (Location × Directive) :=
  placedDirectives c.before ++ c.above.map (c.location, ·)

/-- Whether the closest webhook above, in the same block, has a name that was new there. -/
def hosted (c : Context) : Bool :=
  match c.above.reverse.dropWhile (!·.isWebhook) with
  | .webhook name _ _ :: earlier => (declaredAt? { c with above := earlier.reverse }.past name).isNone
  | _ => false

/-- The state of the merge after all that comes before. -/
def reached (c : Context) : Merge :=
  c.above.foldl (Merge.step c.location) { header := (assemble c.before).draft.header }

end Context

namespace Mention

/-- The webhook that a directive declares, if it declares one. -/
def webhook? (m : Mention) : Option (String × WebhookDraft) :=
  webhookOf? m.location m.below m.directive

/-- What is wrong with a directive about webhooks: the name of a webhook was declared before, or no new
webhook is the closest one above a body or a response. -/
def found (m : Mention) : List Diagnostic :=
  match m.directive with
  | .webhook name _ _ =>
    match declaredAt? m.past name with
    | some first => [⟨.duplicateWebhook name m.location first, some m.location⟩]
    | none => []
  | .webhookBody _ =>
    if m.hosted then [] else [⟨.strayWebhookPart .webhookBody, some m.location⟩]
  | .webhookResponse _ =>
    if m.hosted then [] else [⟨.strayWebhookPart .webhookResponse, some m.location⟩]
  | _ => []

end Mention

/-! ## What a directive finds -/

/-- The webhooks of a header stand at the places where directives first declare their names. -/
def Header.DeclaredBy (ds : List (Location × Directive)) (h : Header) : Prop :=
  ∀ name, (h.webhooks.get? name).map (·.location) = declaredAt? ds name

theorem declaredAt?_concat (ds : List (Location × Directive)) (location : Location) (d : Directive)
    (name : String) :
    declaredAt? (ds ++ [(location, d)]) name =
      (declaredAt? ds name).or (Table.get? (d.webhookAt? location).toList name) := by
  unfold declaredAt?
  rw [said_concat, Table.get?_append]

theorem attachTo_location (open? : Option String) (parts : List Directive)
    (webhooks : Table String WebhookDraft) (name : String) :
    ((attachTo open? parts webhooks).get? name).map (·.location) =
      (webhooks.get? name).map (·.location) := by
  have hparts : ∀ w : WebhookDraft, (parts.foldl WebhookDraft.addPart w).location = w.location := by
    intro w
    induction parts generalizing w with
    | nil => rfl
    | cons d parts ih =>
      rw [List.foldl_cons, ih]
      cases d <;> rfl
  cases open? with
  | none => rfl
  | some key =>
    rw [attachTo, Table.get?_adjust]
    split
    · simp [Function.comp_def, hparts]
    · rfl

theorem declaredBy_concat (ds : List (Location × Directive)) (m : Merge) (location : Location)
    (d : Directive) (hm : m.header.DeclaredBy ds) :
    (Merge.step location m d).header.DeclaredBy (ds ++ [(location, d)]) := by
  intro name'
  rw [declaredAt?_concat, ← hm]
  cases hd : d.isWebhook with
  | false =>
    have hnone : d.webhookAt? location = none := by
      cases d <;> first | rfl | cases hd
    rw [(step_attaches location m hd).2, attachTo_location, hnone]
    simp
  | true =>
    obtain ⟨name, method, description, rfl⟩ := Directive.exists_webhook hd
    cases hget : m.header.webhooks.get? name with
    | some first =>
      simp only [Merge.step, Merge.addWebhook, hget, Merge.report]
      by_cases hname : name = name'
      · simp [← hname, hget]
      · simp [Table.get?_cons, hname]
    | none =>
      simp only [Merge.step, Merge.addWebhook, hget, Table.get?_put]
      by_cases hname : name = name'
      · simp [← hname, hget, Table.get?_cons]
      · simp [Table.get?_cons, hname]

namespace Context

theorem reached_declaredBy (c : Context) : c.reached.header.DeclaredBy c.past :=
  Header.foldl_induction declaredBy_concat c.location c.above
    (assemble_header_induction (fun _ => rfl) declaredBy_concat c.before)

theorem reached_concat (c : Context) (d : Directive) :
    { c with above := c.above ++ [d] }.reached = Merge.step c.location c.reached d :=
  List.foldl_concat ..

/-- A webhook is open exactly if the closest one above has a new name. -/
theorem reached_webhook (c : Context) : c.reached.webhook.isSome = c.hosted := by
  obtain ⟨before, location, above⟩ := c
  induction above using List.reverseRecOn with
  | nil => rfl
  | append_singleton above d ih =>
    rw [reached_concat ⟨before, location, above⟩ d]
    unfold hosted
    rw [List.reverse_concat]
    cases hd : d.isWebhook with
    | false =>
      rw [(step_attaches location _ hd).1, List.dropWhile_cons_of_pos (by simp [hd])]
      exact ih
    | true =>
      rw [List.dropWhile_cons_of_neg (by simp [hd])]
      obtain ⟨name, method, description, rfl⟩ := Directive.exists_webhook hd
      have hdeclared := reached_declaredBy ⟨before, location, above⟩ name
      simp only [List.reverse_reverse, ← hdeclared, Merge.step, Merge.addWebhook]
      cases (reached ⟨before, location, above⟩).header.webhooks.get? name <;> rfl

end Context

/-- The causes that are about webhooks. -/
def Cause.onWebhooks : Cause → Bool
  | .duplicateWebhook .. | .strayWebhookPart .. => true
  | _ => false

theorem Cause.scope_of_onWebhooks (c : Cause) (h : c.onWebhooks = true) : c.scope = .api := by
  cases c <;> first | rfl | cases h

/-- A directive has one thing wrong with it at most, an error for a webhook and a warning for a part of
one. -/
theorem Mention.found_cases (m : Mention) {d : Diagnostic} (h : d ∈ m.found) :
    m.found = [d] ∧ d.location = some m.location ∧ d.cause.onWebhooks = true ∧
      d.severity = if m.directive.isWebhook then .error else .warning := by
  obtain ⟨c, directive, below⟩ := m
  cases directive with
  | webhook name method description =>
    cases hfirst : declaredAt? c.past name <;> simp only [found, hfirst] at h ⊢
    · cases h
    · cases List.mem_singleton.mp h
      exact ⟨rfl, rfl, rfl, rfl⟩
  | webhookBody payload =>
    cases hhosted : c.hosted <;> simp only [found, hhosted] at h ⊢
    · cases List.mem_singleton.mp h
      exact ⟨rfl, rfl, rfl, rfl⟩
    · cases h
  | webhookResponse reply =>
    cases hhosted : c.hosted <;> simp only [found, hhosted] at h ⊢
    · cases List.mem_singleton.mp h
      exact ⟨rfl, rfl, rfl, rfl⟩
    · cases h
  | _ => cases h

/-- Merging a directive adds what is wrong with it to the findings. If something is, the header stays as
it is, and parts that follow have no webhook to go to. -/
theorem Mention.step_found (m : Mention) :
    (Merge.step m.location m.reached m.directive).diagnostics = m.reached.diagnostics ++ m.found ∧
      (m.found ≠ [] → Merge.step m.location m.reached m.directive =
        { header := m.reached.header, webhook := none,
          diagnostics := m.reached.diagnostics ++ m.found }) := by
  obtain ⟨c, d, below⟩ := m
  have hopen := c.reached_webhook
  cases d with
  | webhook name method description =>
    have hdeclared := c.reached_declaredBy name
    cases hget : c.reached.header.webhooks.get? name <;>
      simp [Merge.step, Merge.addWebhook, Merge.report, found, ← hdeclared, hget]
  | webhookBody payload =>
    cases hcursor : c.reached.webhook <;>
      simp [Merge.step, Merge.onWebhook, Merge.report, found, ← hopen, hcursor]
  | webhookResponse reply =>
    cases hcursor : c.reached.webhook <;>
      simp [Merge.step, Merge.onWebhook, Merge.report, found, ← hopen, hcursor]
  | _ => simp [Merge.step, Merge.set, found]

/-- The findings of a block so far are those of its directives. -/
theorem Context.reached_diagnostics (c : Context) :
    c.reached.diagnostics =
      inTurn (fun above d => Mention.found ⟨{ c with above }, d, []⟩) c.above := by
  obtain ⟨before, location, above⟩ := c
  induction above using List.reverseRecOn with
  | nil => rfl
  | append_singleton above d ih =>
    rw [reached_concat ⟨before, location, above⟩ d, inTurn_concat, ← ih]
    exact (Mention.step_found ⟨⟨before, location, above⟩, d, []⟩).1

/-! ## All blocks -/

theorem mentions_concat (blocks : List Block) (block : Block) :
    mentions (blocks ++ [block]) =
      mentions blocks ++ if block.role = .api then block.mentions blocks else [] :=
  inTurn_concat ..

/-- The webhooks of a run are the first ones of their names. -/
theorem webhooks_eq_firstOf (blocks : List Block) :
    (assemble blocks).draft.header.webhooks =
      Table.firstOf ((mentions blocks).filterMap Mention.webhook?) := by
  induction blocks using assemble_induction with
  | nil => rfl
  | step blocks block ih =>
    rw [mentions_concat, Assembly.step_header]
    split
    · have hblock : (block.mentions blocks).filterMap Mention.webhook? =
          webhooksIn block.location (block.kept.map (·.directive)) := by
        rw [Block.mentions, List.filterMap_map]
        rfl
      rw [List.filterMap_append, hblock, Table.firstOf_append, ← ih]
      exact foldl_step_webhooks block.location _ _
    · rwa [List.append_nil]

/-- What is found about webhooks is one finding for each directive that is wrong, in order. -/
theorem findings_onWebhooks (blocks : List Block) :
    findings Cause.onWebhooks (assemble blocks).diagnostics =
      (mentions blocks).flatMap Mention.found := by
  induction blocks using assemble_induction with
  | nil => rfl
  | step blocks block ih =>
    rw [mentions_concat]
    by_cases hrole : block.role = .api
    · have hblock : (block.mentions blocks).flatMap Mention.found =
          ((assemble blocks).draft.header.merge block.location block.kept).2 := by
        rw [Block.mentions, List.flatMap_map]
        exact (Context.reached_diagnostics
          ⟨blocks, block.location, block.kept.map (·.directive)⟩).symm
      have hall : findings Cause.onWebhooks ((block.mentions blocks).flatMap Mention.found) =
          (block.mentions blocks).flatMap Mention.found := by
        refine List.filter_eq_self.mpr fun d hd => ?_
        obtain ⟨m, _, hm⟩ := List.mem_flatMap.mp hd
        exact (m.found_cases hm).2.2.1
      rw [Assembly.step_api hrole, if_pos hrole, List.flatMap_append, ← ih, findings_append,
        findings_append, findings_mixed fun _ _ _ => rfl, ← hblock, hall]
      rfl
    · obtain ⟨found, hfound, hwithin⟩ := (assemble blocks).step_diagnostics_scope block
      rw [hfound, findings_append,
        findings_eq_nil_of_within Cause.scope_of_onWebhooks hwithin hrole, if_neg hrole, ih,
        List.append_nil, List.append_nil]

/-- The webhooks of a run are the first ones of their names, each with the parts that are written below
it up to the next webhook of its block. Every other webhook is one error and every other part one
warning, at the place of its block. Such a directive changes nothing in the header, and no webhook is
open after it. -/
theorem webhooks_attached (blocks : List Block) :
    (assemble blocks).draft.header.webhooks =
        Table.firstOf ((mentions blocks).filterMap Mention.webhook?) ∧
      findings Cause.onWebhooks (assemble blocks).diagnostics =
        (mentions blocks).flatMap Mention.found ∧
      ∀ m ∈ mentions blocks, ∀ d ∈ m.found,
        m.found = [d] ∧ d.location = some m.location ∧
          d.severity = (if m.directive.isWebhook then .error else .warning) ∧
          Merge.step m.location m.reached m.directive =
            { header := m.reached.header, webhook := none,
              diagnostics := m.reached.diagnostics ++ [d] } := by
  refine ⟨webhooks_eq_firstOf blocks, findings_onWebhooks blocks, fun m _ d hd => ?_⟩
  obtain ⟨hone, hlocation, _, hseverity⟩ := m.found_cases hd
  refine ⟨hone, hlocation, hseverity, ?_⟩
  rw [m.step_found.2 (List.ne_nil_of_mem hd), hone]

/-- A part before any webhook, and one below a webhook that is declared again, are left out. -/
theorem webhooks_attached_at_repeated_name :
    let first := Block.ofComment
      "!webhook-body X\n!webhook paid:post\n!webhook-body A\n!webhook-response 200 R\n!webhook-body B"
      "api" .module ⟨"api.py", 1⟩
    let again := Block.ofComment "!webhook paid:put\n!webhook-response 404 E\n!webhook sent:post"
      "api" .module ⟨"api.py", 9⟩
    let taken : Diagnostic :=
      ⟨.duplicateWebhook "paid" ⟨"api.py", 9⟩ ⟨"api.py", 1⟩, some ⟨"api.py", 9⟩⟩
    let assembly := assemble [first, again]
    assembly.draft.header.webhooks.map
        (fun (name, w) => (name, w.method, w.body.map (·.schema), w.responses.keys)) =
      [("paid", .post, some "B", ["200"]), ("sent", .post, none, [])] ∧
    findings Cause.onWebhooks assembly.diagnostics =
      [⟨.strayWebhookPart .webhookBody, some ⟨"api.py", 1⟩⟩, taken,
        ⟨.strayWebhookPart .webhookResponse, some ⟨"api.py", 9⟩⟩] ∧
    ∃ m ∈ mentions [first, again], m.found = [taken] ∧ taken.severity = .error ∧
      (Merge.step m.location m.reached m.directive).header = m.reached.header := by
  intro first again taken assembly
  obtain ⟨hwebhooks, hfindings, hwrong⟩ := webhooks_attached [first, again]
  obtain ⟨hdeclared, hfound⟩ :
      (Table.firstOf ((mentions [first, again]).filterMap Mention.webhook?)).map
        (fun (name, w) => (name, w.method, w.body.map (·.schema), w.responses.keys)) =
        [("paid", .post, some "B", ["200"]), ("sent", .post, none, [])] ∧
      (mentions [first, again]).map Mention.found =
        [[⟨.strayWebhookPart .webhookBody, some ⟨"api.py", 1⟩⟩], [], [], [], [], [taken],
          [⟨.strayWebhookPart .webhookResponse, some ⟨"api.py", 9⟩⟩], []] := by
    dsimp only [first, again]
    rw [Block.ofComment_ofList, Block.ofComment_ofList]
    exact ⟨by decide, by decide⟩
  obtain ⟨m, hm, htaken⟩ : ∃ m ∈ mentions [first, again], m.found = [taken] := by
    apply List.mem_map.mp
    simp [hfound]
  obtain ⟨_, _, _, hstep⟩ := hwrong m hm taken (by simp [htaken])
  refine ⟨?_, ?_, m, hm, htaken, rfl, by rw [hstep]⟩
  · rw [hwebhooks, hdeclared]
  · rw [hfindings, List.flatMap_def, hfound]
    rfl

end ApiDirectives
