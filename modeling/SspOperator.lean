import SspOperator.Lib.Run
import SspOperator.Lib.Edge
import SspOperator.Lib.Loop
import SspOperator.Lib.SetMultimap
import SspOperator.Lib.KeyedMap
import SspOperator.Lib.Semver
import SspOperator.Lib.Binary64
import SspOperator.Lib.Versioned
import SspOperator.Lib.Watch
import SspOperator.Meta
import SspOperator.Unstructured
import SspOperator.Common.CryptoPolicy
import SspOperator.Common.Object
import SspOperator.Common.Cleanup
import SspOperator.Common.Resource
import SspOperator.Common.Convergence
import SspOperator.Common.Collect
import SspOperator.Api.SSP
import SspOperator.Architecture
import SspOperator.Operands.CommonTemplates
import SspOperator.Operands.CommonTemplatesReconcile
import SspOperator.Operands.TemplateValidator
import SspOperator.Controllers.SspController
import SspOperator.Controllers.SspLifecycle
import SspOperator.Controllers.SspLifecycleSafety
import SspOperator.Controllers.SspLifecycleRegions
import SspOperator.Controllers.SspLifecycleStatus
import SspOperator.Controllers.SspLifecycleViews
import SspOperator.Controllers.SspLifecycleUserWrites
import SspOperator.Controllers.SspWatch
import SspOperator.Controllers.Watches
import SspOperator.Controllers.VmController
import SspOperator.CrdWatch
import SspOperator.SspWebhook
import SspOperator.TemplateBundle
import SspOperator.Operands.DataSources
import SspOperator.Operands.DesiredDataSources
import SspOperator.Operands.DataSourcesReconcile
import SspOperator.TemplateValidator.Path
import SspOperator.TemplateValidator.Rules
import SspOperator.TemplateValidator.Json
import SspOperator.TemplateValidator.Eval
import SspOperator.TemplateValidator.VmCache
import SspOperator.TemplateValidator.Webhooks
import SspOperator.TemplateValidator.RefGen
