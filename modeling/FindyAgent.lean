import FindyAgent.Go
import FindyAgent.Didcomm
import FindyAgent.Api
import FindyAgent.Agent.Pairwise
import FindyAgent.Agent.Cloud
import FindyAgent.Agent.Callback
import FindyAgent.Agent.Permission
import FindyAgent.Psm
import FindyAgent.Engine
import FindyAgent.Protocol.PresentProof
import FindyAgent.Protocol.IssueCredential
import FindyAgent.Protocol.Reach
import FindyAgent.Server.TaskFrom
import FindyAgent.Server.DidCommServer
import FindyAgent.Server.Run
import FindyAgent.Server.Lifecycle
