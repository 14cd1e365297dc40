import SessionBatch.Batch
import SessionBatch.Error.Service
import SessionBatch.Registry.Standard
import SessionBatch.Retry

namespace SessionBatch

abbrev AssetSource := OrgId → Work Unit BackendError Assets

namespace Service

variable {σ : Type}

def assets (source : AssetSource) (org : OrgId) : Work σ ServiceError Assets := do
  let tries : Work Unit BackendError (Retry.Decision BackendError Assets) :=
    Work.retried (source org)
  let (result, _) ← Work.beside () tries
  Work.ofExcept ((result.bind Retry.Decision.result).mapError .backend)

-- The first session decides whose assets are read, once for all tries of the batch.
def process (source : AssetSource) : Work (List Session) ServiceError Outcome := do
  match (← get).subject.head? with
  | none => return {}
  | some first =>
    let assets ← assets source first.orgId
    let decision ← Work.retried (Batch.process Registry.standard assets)
    let outcome ← Work.ofExcept (decision.result.mapError .batch)
    Work.note .info <| "runtime:batch_done org_id=" ++ first.orgId.text ++ " sessions=" ++
      toString outcome.sessions ++ " hooks=" ++ toString outcome.hooksApplied.length ++
      " post_commit_failures=" ++ toString outcome.postCommitFailures.length
    return outcome

end Service
end SessionBatch
