import ServiceBroker.Catalog.Json
import ServiceBroker.Proofs.Operation.RoundTrip

/-! The catalog and the configuration of a broker are read back from their documents. Each record
writes all its fields under the names they are read under, so no field is ever taken for what it is
when it is absent. -/
namespace ServiceBroker

open Json

theorem form_text (s : String) : form.text (.text s) = some s := rfl

/-- A limit or a cost is read back. -/
theorem nullable_word32 (n : Option UInt32) :
    form.nullable form.word32 (.ofOption (fun n => .nat n.toNat) n) = some n :=
  Decode.nullable_ofOption _ _ Decode.word32_nat (fun _ => rfl) n

theorem plain_word32 (n : Option UInt32) :
    (Document.ofOption (fun n : UInt32 => .nat n.toNat) n).Plain :=
  Document.plain_ofOption fun n _ => Document.plain_nat n.toNat

namespace ResourceQuota

theorem ofDocument_toDocument (q : ResourceQuota) : ofDocument q.toDocument = some q := by
  have fields : form.fields [["limit"], ["cost"]] q.toDocument = some [some _, some _] :=
    Document.fields?_record [(_, _), (_, _)] (by simp)
  rw [ofDocument, read, fields, Option.bind_some]
  simp only [Form.orElse, nullable_word32]
  rfl

theorem plain_toDocument (q : ResourceQuota) : q.toDocument.Plain :=
  ⟨plain_word32 q.limit, plain_word32 q.cost, trivial⟩

end ResourceQuota

namespace Quotas

theorem ofDocument_toDocument (q : Quotas) : ofDocument q.toDocument = some q := by
  have fields : form.fields [["service_instance_limit"], ["resources"]] q.toDocument =
      some [some _, some _] := Document.fields?_record [(_, _), (_, _)] (by simp)
  have resources : form.mapOf (ResourceQuota.read form) (.ofMap _ q.resources) = some q.resources :=
    Decode.map_ofMap _ _ _ fun e _ => e.2.ofDocument_toDocument
  rw [ofDocument, read, fields, Option.bind_some]
  simp only [Form.orElse, nullable_word32, resources]
  rfl

theorem plain_toDocument (q : Quotas) : q.toDocument.Plain :=
  ⟨plain_word32 q.instanceLimit, Document.plain_ofMap fun e _ => e.2.plain_toDocument, trivial⟩

end Quotas

namespace LifecycleErrands

theorem ofDocument_toDocument (e : LifecycleErrands) : ofDocument e.toDocument = some e := by
  have fields : form.fields [["post_deploy"], ["pre_delete"]] e.toDocument = some [some _, some _] :=
    Document.fields?_record [(_, _), (_, _)] (by simp)
  have post : form.nullable (Errand.read form) (.ofOption _ e.postDeploy) = some e.postDeploy :=
    Decode.nullable_ofOption _ _ Errand.ofDocument_toDocument (fun _ => rfl) _
  have pre : form.listOf (Errand.read form) (.ofList _ e.preDelete) = some e.preDelete :=
    Decode.list_ofList _ _ _ fun e _ => e.ofDocument_toDocument
  rw [ofDocument, read, fields, Option.bind_some]
  simp only [Form.orElse, post, pre]
  rfl

theorem plain_toDocument (e : LifecycleErrands) : e.toDocument.Plain :=
  ⟨Document.plain_ofOption fun e _ => e.plain_toDocument,
    Document.plain_ofList fun e _ => e.plain_toDocument, trivial⟩

end LifecycleErrands

namespace Plan

/-- A plan is read back from its document. -/
theorem ofDocument_toDocument (p : Plan) : ofDocument p.toDocument = some p := by
  have fields : form.fields [["id"], ["name"], ["quotas"], ["lifecycle_errands"]] p.toDocument =
      some [some _, some _, some _, some _] :=
    Document.fields?_record [(_, _), (_, _), (_, _), (_, _)] (by simp)
  have quotas : Quotas.read form p.quotas.toDocument = some p.quotas :=
    p.quotas.ofDocument_toDocument
  have errands : LifecycleErrands.read form p.errands.toDocument = some p.errands :=
    p.errands.ofDocument_toDocument
  rw [ofDocument, read, fields, Option.bind_some]
  simp only [Form.orElse, Form.required, Option.bind_some, form_text, quotas, errands]
  rfl

theorem plain_toDocument (p : Plan) : p.toDocument.Plain :=
  ⟨trivial, trivial, p.quotas.plain_toDocument, p.errands.plain_toDocument, trivial⟩

end Plan

namespace Offering

/-- An offering is read back from its document. -/
theorem ofDocument_toDocument (o : Offering) : ofDocument o.toDocument = some o := by
  have fields : form.fields [["id"], ["name"], ["global_quotas"], ["plans"]] o.toDocument =
      some [some _, some _, some _, some _] :=
    Document.fields?_record [(_, _), (_, _), (_, _), (_, _)] (by simp)
  have quotas : Quotas.read form o.globalQuotas.toDocument = some o.globalQuotas :=
    o.globalQuotas.ofDocument_toDocument
  have plans : form.listOf (Plan.read form) (.ofList _ o.plans) = some o.plans :=
    Decode.list_ofList _ _ _ fun p _ => p.ofDocument_toDocument
  rw [ofDocument, read, fields, Option.bind_some]
  simp only [Form.orElse, Form.required, Option.bind_some, form_text, quotas, plans]
  rfl

theorem plain_toDocument (o : Offering) : o.toDocument.Plain :=
  ⟨trivial, trivial, o.globalQuotas.plain_toDocument,
    Document.plain_ofList fun p _ => p.plain_toDocument, trivial⟩

end Offering

theorem BrokerSettings.ofDocument_toDocument (s : BrokerSettings) :
    ofDocument s.toDocument = some s := by
  have fields : form.fields [["deployment_prefix"], ["environment"]] s.toDocument =
      some [some _, some _] := Document.fields?_record [(_, _), (_, _)] (by simp)
  rw [ofDocument, read, fields, Option.bind_some]
  simp only [Form.orElse, form_text]
  rfl

namespace BrokerConfig

/-- A configuration is read back from its document. -/
theorem ofDocument_toDocument (c : BrokerConfig) : ofDocument c.toDocument = some c := by
  have fields : form.fields [["broker"], ["service_catalog"]] c.toDocument = some [some _, some _] :=
    Document.fields?_record [(_, _), (_, _)] (by simp)
  have settings : BrokerSettings.read form c.settings.toDocument = some c.settings :=
    c.settings.ofDocument_toDocument
  have offering : Offering.read form c.offering.toDocument = some c.offering :=
    c.offering.ofDocument_toDocument
  rw [ofDocument, read, fields, Option.bind_some]
  simp only [Form.orElse, Form.required, Option.bind_some, settings, offering]
  rfl

theorem plain_toDocument (c : BrokerConfig) : c.toDocument.Plain :=
  ⟨⟨trivial, trivial, trivial⟩, c.offering.plain_toDocument, trivial⟩

end BrokerConfig

end ServiceBroker
