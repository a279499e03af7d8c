import Sc2pp.Common

/-!
This module contains the names of the enumerators of `AbilityID`, as `magic_enum` finds them. Two of
them have the value 766, its name is that of the first. The name of any other value is empty.
-/

namespace Sc2

def AbilityId.enumNames : List (AbilityId × String) := [
  (⟨0⟩, "INVALID"),
  (⟨1⟩, "SMART"),
  (⟨3674⟩, "ATTACK"),
  (⟨23⟩, "ATTACK_ATTACK"),
  (⟨2048⟩, "ATTACK_ATTACKBUILDING"),
  (⟨1682⟩, "ATTACK_REDIRECT"),
  (⟨2082⟩, "BEHAVIOR_BUILDINGATTACKOFF"),
  (⟨2081⟩, "BEHAVIOR_BUILDINGATTACKON"),
  (⟨3677⟩, "BEHAVIOR_CLOAKOFF"),
  (⟨393⟩, "BEHAVIOR_CLOAKOFF_BANSHEE"),
  (⟨383⟩, "BEHAVIOR_CLOAKOFF_GHOST"),
  (⟨3676⟩, "BEHAVIOR_CLOAKON"),
  (⟨392⟩, "BEHAVIOR_CLOAKON_BANSHEE"),
  (⟨382⟩, "BEHAVIOR_CLOAKON_GHOST"),
  (⟨1693⟩, "BEHAVIOR_GENERATECREEPOFF"),
  (⟨1692⟩, "BEHAVIOR_GENERATECREEPON"),
  (⟨3689⟩, "BEHAVIOR_HOLDFIREOFF"),
  (⟨2552⟩, "BEHAVIOR_HOLDFIREOFF_LURKER"),
  (⟨3688⟩, "BEHAVIOR_HOLDFIREON"),
  (⟨36⟩, "BEHAVIOR_HOLDFIREON_GHOST"),
  (⟨2550⟩, "BEHAVIOR_HOLDFIREON_LURKER"),
  (⟨2376⟩, "BEHAVIOR_PULSARBEAMOFF"),
  (⟨2375⟩, "BEHAVIOR_PULSARBEAMON"),
  (⟨331⟩, "BUILD_ARMORY"),
  (⟨882⟩, "BUILD_ASSIMILATOR"),
  (⟨1162⟩, "BUILD_BANELINGNEST"),
  (⟨321⟩, "BUILD_BARRACKS"),
  (⟨324⟩, "BUILD_BUNKER"),
  (⟨318⟩, "BUILD_COMMANDCENTER"),
  (⟨3691⟩, "BUILD_CREEPTUMOR"),
  (⟨1694⟩, "BUILD_CREEPTUMOR_QUEEN"),
  (⟨1733⟩, "BUILD_CREEPTUMOR_TUMOR"),
  (⟨894⟩, "BUILD_CYBERNETICSCORE"),
  (⟨891⟩, "BUILD_DARKSHRINE"),
  (⟨322⟩, "BUILD_ENGINEERINGBAY"),
  (⟨1156⟩, "BUILD_EVOLUTIONCHAMBER"),
  (⟨1154⟩, "BUILD_EXTRACTOR"),
  (⟨328⟩, "BUILD_FACTORY"),
  (⟨885⟩, "BUILD_FLEETBEACON"),
  (⟨884⟩, "BUILD_FORGE"),
  (⟨333⟩, "BUILD_FUSIONCORE"),
  (⟨883⟩, "BUILD_GATEWAY"),
  (⟨327⟩, "BUILD_GHOSTACADEMY"),
  (⟨1152⟩, "BUILD_HATCHERY"),
  (⟨1157⟩, "BUILD_HYDRALISKDEN"),
  (⟨1160⟩, "BUILD_INFESTATIONPIT"),
  (⟨1042⟩, "BUILD_INTERCEPTORS"),
  (⟨323⟩, "BUILD_MISSILETURRET"),
  (⟨880⟩, "BUILD_NEXUS"),
  (⟨710⟩, "BUILD_NUKE"),
  (⟨1161⟩, "BUILD_NYDUSNETWORK"),
  (⟨1768⟩, "BUILD_NYDUSWORM"),
  (⟨887⟩, "BUILD_PHOTONCANNON"),
  (⟨881⟩, "BUILD_PYLON"),
  (⟨3683⟩, "BUILD_REACTOR"),
  (⟨422⟩, "BUILD_REACTOR_BARRACKS"),
  (⟨455⟩, "BUILD_REACTOR_FACTORY"),
  (⟨488⟩, "BUILD_REACTOR_STARPORT"),
  (⟨320⟩, "BUILD_REFINERY"),
  (⟨1165⟩, "BUILD_ROACHWARREN"),
  (⟨892⟩, "BUILD_ROBOTICSBAY"),
  (⟨893⟩, "BUILD_ROBOTICSFACILITY"),
  (⟨326⟩, "BUILD_SENSORTOWER"),
  (⟨895⟩, "BUILD_SHIELDBATTERY"),
  (⟨1155⟩, "BUILD_SPAWNINGPOOL"),
  (⟨1166⟩, "BUILD_SPINECRAWLER"),
  (⟨1158⟩, "BUILD_SPIRE"),
  (⟨1167⟩, "BUILD_SPORECRAWLER"),
  (⟨889⟩, "BUILD_STARGATE"),
  (⟨329⟩, "BUILD_STARPORT"),
  (⟨2505⟩, "BUILD_STASISTRAP"),
  (⟨319⟩, "BUILD_SUPPLYDEPOT"),
  (⟨3682⟩, "BUILD_TECHLAB"),
  (⟨421⟩, "BUILD_TECHLAB_BARRACKS"),
  (⟨454⟩, "BUILD_TECHLAB_FACTORY"),
  (⟨487⟩, "BUILD_TECHLAB_STARPORT"),
  (⟨890⟩, "BUILD_TEMPLARARCHIVE"),
  (⟨886⟩, "BUILD_TWILIGHTCOUNCIL"),
  (⟨1159⟩, "BUILD_ULTRALISKCAVERN"),
  (⟨3661⟩, "BURROWDOWN"),
  (⟨1374⟩, "BURROWDOWN_BANELING"),
  (⟨1378⟩, "BURROWDOWN_DRONE"),
  (⟨1382⟩, "BURROWDOWN_HYDRALISK"),
  (⟨1444⟩, "BURROWDOWN_INFESTOR"),
  (⟨2108⟩, "BURROWDOWN_LURKER"),
  (⟨1433⟩, "BURROWDOWN_QUEEN"),
  (⟨2340⟩, "BURROWDOWN_RAVAGER"),
  (⟨1386⟩, "BURROWDOWN_ROACH"),
  (⟨2014⟩, "BURROWDOWN_SWARMHOST"),
  (⟨2095⟩, "BURROWDOWN_WIDOWMINE"),
  (⟨1390⟩, "BURROWDOWN_ZERGLING"),
  (⟨3662⟩, "BURROWUP"),
  (⟨1376⟩, "BURROWUP_BANELING"),
  (⟨1380⟩, "BURROWUP_DRONE"),
  (⟨1384⟩, "BURROWUP_HYDRALISK"),
  (⟨1446⟩, "BURROWUP_INFESTOR"),
  (⟨2110⟩, "BURROWUP_LURKER"),
  (⟨1435⟩, "BURROWUP_QUEEN"),
  (⟨2342⟩, "BURROWUP_RAVAGER"),
  (⟨1388⟩, "BURROWUP_ROACH"),
  (⟨2016⟩, "BURROWUP_SWARMHOST"),
  (⟨2097⟩, "BURROWUP_WIDOWMINE"),
  (⟨1392⟩, "BURROWUP_ZERGLING"),
  (⟨3659⟩, "CANCEL"),
  (⟨313⟩, "CANCELSLOT_ADDON"),
  (⟨305⟩, "CANCELSLOT_QUEUE1"),
  (⟨307⟩, "CANCELSLOT_QUEUE5"),
  (⟨309⟩, "CANCELSLOT_QUEUECANCELTOSELECTION"),
  (⟨1832⟩, "CANCELSLOT_QUEUEPASSIVE"),
  (⟨2594⟩, "CANCEL_ADEPTPHASESHIFT"),
  (⟨2596⟩, "CANCEL_ADEPTSHADEPHASESHIFT"),
  (⟨451⟩, "CANCEL_BARRACKSADDON"),
  (⟨314⟩, "CANCEL_BUILDINPROGRESS"),
  (⟨1763⟩, "CANCEL_CREEPTUMOR"),
  (⟨484⟩, "CANCEL_FACTORYADDON"),
  (⟨174⟩, "CANCEL_GRAVITONBEAM"),
  (⟨3671⟩, "CANCEL_LAST"),
  (⟨1373⟩, "CANCEL_MORPHBROODLORD"),
  (⟨1217⟩, "CANCEL_MORPHLAIR"),
  (⟨2333⟩, "CANCEL_MORPHLURKER"),
  (⟨2113⟩, "CANCEL_MORPHLURKERDEN"),
  (⟨1848⟩, "CANCEL_MORPHMOTHERSHIP"),
  (⟨1517⟩, "CANCEL_MORPHORBITAL"),
  (⟨2709⟩, "CANCEL_MORPHOVERLORDTRANSPORT"),
  (⟨1449⟩, "CANCEL_MORPHOVERSEER"),
  (⟨1451⟩, "CANCEL_MORPHPLANETARYFORTRESS"),
  (⟨2331⟩, "CANCEL_MORPHRAVAGER"),
  (⟨304⟩, "CANCEL_QUEUE1"),
  (⟨306⟩, "CANCEL_QUEUE5"),
  (⟨312⟩, "CANCEL_QUEUEADDON"),
  (⟨308⟩, "CANCEL_QUEUECANCELTOSELECTION"),
  (⟨1831⟩, "CANCEL_QUEUEPASIVE"),
  (⟨1833⟩, "CANCEL_QUEUEPASSIVECANCELTOSELECTION"),
  (⟨1730⟩, "CANCEL_SPINECRAWLERROOT"),
  (⟨517⟩, "CANCEL_STARPORTADDON"),
  (⟨2067⟩, "EFFECT_ABDUCT"),
  (⟨2544⟩, "EFFECT_ADEPTPHASESHIFT"),
  (⟨1764⟩, "EFFECT_AUTOTURRET"),
  (⟨2063⟩, "EFFECT_BLINDINGCLOUD"),
  (⟨3687⟩, "EFFECT_BLINK"),
  (⟨1442⟩, "EFFECT_BLINK_STALKER"),
  (⟨171⟩, "EFFECT_CALLDOWNMULE"),
  (⟨2324⟩, "EFFECT_CAUSTICSPRAY"),
  (⟨1819⟩, "EFFECT_CHARGE"),
  (⟨3755⟩, "EFFECT_CHRONOBOOST"),
  (⟨1825⟩, "EFFECT_CONTAMINATE"),
  (⟨2338⟩, "EFFECT_CORROSIVEBILE"),
  (⟨1628⟩, "EFFECT_EMP"),
  (⟨42⟩, "EFFECT_EXPLODE"),
  (⟨140⟩, "EFFECT_FEEDBACK"),
  (⟨1526⟩, "EFFECT_FORCEFIELD"),
  (⟨74⟩, "EFFECT_FUNGALGROWTH"),
  (⟨2714⟩, "EFFECT_GHOSTSNIPE"),
  (⟨173⟩, "EFFECT_GRAVITONBEAM"),
  (⟨76⟩, "EFFECT_GUARDIANSHIELD"),
  (⟨386⟩, "EFFECT_HEAL"),
  (⟨169⟩, "EFFECT_HUNTERSEEKERMISSILE"),
  (⟨2328⟩, "EFFECT_IMMORTALBARRIER"),
  (⟨247⟩, "EFFECT_INFESTEDTERRANS"),
  (⟨251⟩, "EFFECT_INJECTLARVA"),
  (⟨2588⟩, "EFFECT_KD8CHARGE"),
  (⟨2350⟩, "EFFECT_LOCKON"),
  (⟨2387⟩, "EFFECT_LOCUSTSWOOP"),
  (⟨3686⟩, "EFFECT_MASSRECALL"),
  (⟨2368⟩, "EFFECT_MASSRECALL_MOTHERSHIP"),
  (⟨1974⟩, "EFFECT_MASSRECALL_MOTHERSHIPCORE"),
  (⟨2116⟩, "EFFECT_MEDIVACIGNITEAFTERBURNERS"),
  (⟨249⟩, "EFFECT_NEURALPARASITE"),
  (⟨1622⟩, "EFFECT_NUKECALLDOWN"),
  (⟨2146⟩, "EFFECT_ORACLEREVELATION"),
  (⟨2542⟩, "EFFECT_PARASITICBOMB"),
  (⟨2162⟩, "EFFECT_PHOTONOVERCHARGE"),
  (⟨144⟩, "EFFECT_POINTDEFENSEDRONE"),
  (⟨1036⟩, "EFFECT_PSISTORM"),
  (⟨2346⟩, "EFFECT_PURIFICATIONNOVA"),
  (⟨3685⟩, "EFFECT_REPAIR"),
  (⟨78⟩, "EFFECT_REPAIR_MULE"),
  (⟨316⟩, "EFFECT_REPAIR_SCV"),
  (⟨3765⟩, "EFFECT_RESTORE"),
  (⟨32⟩, "EFFECT_SALVAGE"),
  (⟨399⟩, "EFFECT_SCAN"),
  (⟨2700⟩, "EFFECT_SHADOWSTRIDE"),
  (⟨181⟩, "EFFECT_SPAWNCHANGELING"),
  (⟨2704⟩, "EFFECT_SPAWNLOCUSTS"),
  (⟨3684⟩, "EFFECT_SPRAY"),
  (⟨30⟩, "EFFECT_SPRAY_PROTOSS"),
  (⟨26⟩, "EFFECT_SPRAY_TERRAN"),
  (⟨28⟩, "EFFECT_SPRAY_ZERG"),
  (⟨3675⟩, "EFFECT_STIM"),
  (⟨253⟩, "EFFECT_STIM_MARAUDER"),
  (⟨380⟩, "EFFECT_STIM_MARINE"),
  (⟨1683⟩, "EFFECT_STIM_MARINE_REDIRECT"),
  (⟨255⟩, "EFFECT_SUPPLYDROP"),
  (⟨2358⟩, "EFFECT_TACTICALJUMP"),
  (⟨2698⟩, "EFFECT_TEMPESTDISRUPTIONBLAST"),
  (⟨2244⟩, "EFFECT_TIMEWARP"),
  (⟨1664⟩, "EFFECT_TRANSFUSION"),
  (⟨2073⟩, "EFFECT_VIPERCONSUME"),
  (⟨2393⟩, "EFFECT_VOIDRAYPRISMATICALIGNMENT"),
  (⟨2099⟩, "EFFECT_WIDOWMINEATTACK"),
  (⟨401⟩, "EFFECT_YAMATOGUN"),
  (⟨2391⟩, "HALLUCINATION_ADEPT"),
  (⟨146⟩, "HALLUCINATION_ARCHON"),
  (⟨148⟩, "HALLUCINATION_COLOSSUS"),
  (⟨2389⟩, "HALLUCINATION_DISRUPTOR"),
  (⟨150⟩, "HALLUCINATION_HIGHTEMPLAR"),
  (⟨152⟩, "HALLUCINATION_IMMORTAL"),
  (⟨2114⟩, "HALLUCINATION_ORACLE"),
  (⟨154⟩, "HALLUCINATION_PHOENIX"),
  (⟨156⟩, "HALLUCINATION_PROBE"),
  (⟨158⟩, "HALLUCINATION_STALKER"),
  (⟨160⟩, "HALLUCINATION_VOIDRAY"),
  (⟨162⟩, "HALLUCINATION_WARPPRISM"),
  (⟨164⟩, "HALLUCINATION_ZEALOT"),
  (⟨3660⟩, "HALT"),
  (⟨315⟩, "HALT_BUILDING"),
  (⟨348⟩, "HALT_TERRANBUILD"),
  (⟨3666⟩, "HARVEST_GATHER"),
  (⟨1183⟩, "HARVEST_GATHER_DRONE"),
  (⟨298⟩, "HARVEST_GATHER_PROBE"),
  (⟨295⟩, "HARVEST_GATHER_SCV"),
  (⟨3667⟩, "HARVEST_RETURN"),
  (⟨1184⟩, "HARVEST_RETURN_DRONE"),
  (⟨167⟩, "HARVEST_RETURN_MULE"),
  (⟨299⟩, "HARVEST_RETURN_PROBE"),
  (⟨296⟩, "HARVEST_RETURN_SCV"),
  (⟨18⟩, "HOLDPOSITION"),
  (⟨3678⟩, "LAND"),
  (⟨554⟩, "LAND_BARRACKS"),
  (⟨419⟩, "LAND_COMMANDCENTER"),
  (⟨520⟩, "LAND_FACTORY"),
  (⟨1524⟩, "LAND_ORBITALCOMMAND"),
  (⟨522⟩, "LAND_STARPORT"),
  (⟨3679⟩, "LIFT"),
  (⟨452⟩, "LIFT_BARRACKS"),
  (⟨417⟩, "LIFT_COMMANDCENTER"),
  (⟨485⟩, "LIFT_FACTORY"),
  (⟨1522⟩, "LIFT_ORBITALCOMMAND"),
  (⟨518⟩, "LIFT_STARPORT"),
  (⟨3668⟩, "LOAD"),
  (⟨3663⟩, "LOADALL"),
  (⟨416⟩, "LOADALL_COMMANDCENTER"),
  (⟨407⟩, "LOAD_BUNKER"),
  (⟨394⟩, "LOAD_MEDIVAC"),
  (⟨1766⟩, "MORPH_ARCHON"),
  (⟨1372⟩, "MORPH_BROODLORD"),
  (⟨1520⟩, "MORPH_GATEWAY"),
  (⟨1220⟩, "MORPH_GREATERSPIRE"),
  (⟨1998⟩, "MORPH_HELLBAT"),
  (⟨1978⟩, "MORPH_HELLION"),
  (⟨1218⟩, "MORPH_HIVE"),
  (⟨1216⟩, "MORPH_LAIR"),
  (⟨2560⟩, "MORPH_LIBERATORAAMODE"),
  (⟨2558⟩, "MORPH_LIBERATORAGMODE"),
  (⟨2332⟩, "MORPH_LURKER"),
  (⟨2112⟩, "MORPH_LURKERDEN"),
  (⟨1847⟩, "MORPH_MOTHERSHIP"),
  (⟨1516⟩, "MORPH_ORBITALCOMMAND"),
  (⟨2708⟩, "MORPH_OVERLORDTRANSPORT"),
  (⟨1448⟩, "MORPH_OVERSEER"),
  (⟨1450⟩, "MORPH_PLANETARYFORTRESS"),
  (⟨2330⟩, "MORPH_RAVAGER"),
  (⟨3680⟩, "MORPH_ROOT"),
  (⟨388⟩, "MORPH_SIEGEMODE"),
  (⟨1729⟩, "MORPH_SPINECRAWLERROOT"),
  (⟨1725⟩, "MORPH_SPINECRAWLERUPROOT"),
  (⟨1731⟩, "MORPH_SPORECRAWLERROOT"),
  (⟨1727⟩, "MORPH_SPORECRAWLERUPROOT"),
  (⟨556⟩, "MORPH_SUPPLYDEPOT_LOWER"),
  (⟨558⟩, "MORPH_SUPPLYDEPOT_RAISE"),
  (⟨2364⟩, "MORPH_THOREXPLOSIVEMODE"),
  (⟨2362⟩, "MORPH_THORHIGHIMPACTMODE"),
  (⟨390⟩, "MORPH_UNSIEGE"),
  (⟨3681⟩, "MORPH_UPROOT"),
  (⟨403⟩, "MORPH_VIKINGASSAULTMODE"),
  (⟨405⟩, "MORPH_VIKINGFIGHTERMODE"),
  (⟨1518⟩, "MORPH_WARPGATE"),
  (⟨1528⟩, "MORPH_WARPPRISMPHASINGMODE"),
  (⟨1530⟩, "MORPH_WARPPRISMTRANSPORTMODE"),
  (⟨3794⟩, "MOVE"),
  (⟨3795⟩, "PATROL"),
  (⟨195⟩, "RALLY_BUILDING"),
  (⟨203⟩, "RALLY_COMMANDCENTER"),
  (⟨211⟩, "RALLY_HATCHERY_UNITS"),
  (⟨212⟩, "RALLY_HATCHERY_WORKERS"),
  (⟨199⟩, "RALLY_MORPHING_UNIT"),
  (⟨207⟩, "RALLY_NEXUS"),
  (⟨3673⟩, "RALLY_UNITS"),
  (⟨3690⟩, "RALLY_WORKERS"),
  (⟨1594⟩, "RESEARCH_ADEPTRESONATINGGLAIVES"),
  (⟨805⟩, "RESEARCH_ADVANCEDBALLISTICS"),
  (⟨790⟩, "RESEARCH_BANSHEECLOAKINGFIELD"),
  (⟨799⟩, "RESEARCH_BANSHEEHYPERFLIGHTROTORS"),
  (⟨1532⟩, "RESEARCH_BATTLECRUISERWEAPONREFIT"),
  (⟨1593⟩, "RESEARCH_BLINK"),
  (⟨1225⟩, "RESEARCH_BURROW"),
  (⟨1482⟩, "RESEARCH_CENTRIFUGALHOOKS"),
  (⟨1592⟩, "RESEARCH_CHARGE"),
  (⟨265⟩, "RESEARCH_CHITINOUSPLATING"),
  (⟨731⟩, "RESEARCH_COMBATSHIELD"),
  (⟨732⟩, "RESEARCH_CONCUSSIVESHELLS"),
  (⟨769⟩, "RESEARCH_CYCLONELOCKONDAMAGE"),
  (⟨764⟩, "RESEARCH_DRILLINGCLAWS"),
  (⟨806⟩, "RESEARCH_ENHANCEDMUNITIONS"),
  (⟨1097⟩, "RESEARCH_EXTENDEDTHERMALLANCE"),
  (⟨216⟩, "RESEARCH_GLIALREGENERATION"),
  (⟨1093⟩, "RESEARCH_GRAVITICBOOSTER"),
  (⟨1094⟩, "RESEARCH_GRAVITICDRIVE"),
  (⟨1282⟩, "RESEARCH_GROOVEDSPINES"),
  (⟨804⟩, "RESEARCH_HIGHCAPACITYFUELTANKS"),
  (⟨650⟩, "RESEARCH_HISECAUTOTRACKING"),
  (⟨761⟩, "RESEARCH_INFERNALPREIGNITER"),
  (⟨44⟩, "RESEARCH_INTERCEPTORGRAVITONCATAPULT"),
  (⟨766⟩, "RESEARCH_MAGFIELDLAUNCHERS"),
  (⟨1283⟩, "RESEARCH_MUSCULARAUGMENTS"),
  (⟨655⟩, "RESEARCH_NEOSTEELFRAME"),
  (⟨1455⟩, "RESEARCH_NEURALPARASITE"),
  (⟨1454⟩, "RESEARCH_PATHOGENGLANDS"),
  (⟨820⟩, "RESEARCH_PERSONALCLOAKING"),
  (⟨46⟩, "RESEARCH_PHOENIXANIONPULSECRYSTALS"),
  (⟨1223⟩, "RESEARCH_PNEUMATIZEDCARAPACE"),
  (⟨3692⟩, "RESEARCH_PROTOSSAIRARMOR"),
  (⟨1565⟩, "RESEARCH_PROTOSSAIRARMORLEVEL1"),
  (⟨1566⟩, "RESEARCH_PROTOSSAIRARMORLEVEL2"),
  (⟨1567⟩, "RESEARCH_PROTOSSAIRARMORLEVEL3"),
  (⟨3693⟩, "RESEARCH_PROTOSSAIRWEAPONS"),
  (⟨1562⟩, "RESEARCH_PROTOSSAIRWEAPONSLEVEL1"),
  (⟨1563⟩, "RESEARCH_PROTOSSAIRWEAPONSLEVEL2"),
  (⟨1564⟩, "RESEARCH_PROTOSSAIRWEAPONSLEVEL3"),
  (⟨3694⟩, "RESEARCH_PROTOSSGROUNDARMOR"),
  (⟨1065⟩, "RESEARCH_PROTOSSGROUNDARMORLEVEL1"),
  (⟨1066⟩, "RESEARCH_PROTOSSGROUNDARMORLEVEL2"),
  (⟨1067⟩, "RESEARCH_PROTOSSGROUNDARMORLEVEL3"),
  (⟨3695⟩, "RESEARCH_PROTOSSGROUNDWEAPONS"),
  (⟨1062⟩, "RESEARCH_PROTOSSGROUNDWEAPONSLEVEL1"),
  (⟨1063⟩, "RESEARCH_PROTOSSGROUNDWEAPONSLEVEL2"),
  (⟨1064⟩, "RESEARCH_PROTOSSGROUNDWEAPONSLEVEL3"),
  (⟨3696⟩, "RESEARCH_PROTOSSSHIELDS"),
  (⟨1068⟩, "RESEARCH_PROTOSSSHIELDSLEVEL1"),
  (⟨1069⟩, "RESEARCH_PROTOSSSHIELDSLEVEL2"),
  (⟨1070⟩, "RESEARCH_PROTOSSSHIELDSLEVEL3"),
  (⟨1126⟩, "RESEARCH_PSISTORM"),
  (⟨768⟩, "RESEARCH_RAPIDFIRELAUNCHERS"),
  (⟨793⟩, "RESEARCH_RAVENCORVIDREACTOR"),
  (⟨803⟩, "RESEARCH_RAVENRECALIBRATEDEXPLOSIVES"),
  (⟨2720⟩, "RESEARCH_SHADOWSTRIKE"),
  (⟨766⟩, "RESEARCH_SMARTSERVOS"),
  (⟨730⟩, "RESEARCH_STIMPACK"),
  (⟨3697⟩, "RESEARCH_TERRANINFANTRYARMOR"),
  (⟨656⟩, "RESEARCH_TERRANINFANTRYARMORLEVEL1"),
  (⟨657⟩, "RESEARCH_TERRANINFANTRYARMORLEVEL2"),
  (⟨658⟩, "RESEARCH_TERRANINFANTRYARMORLEVEL3"),
  (⟨3698⟩, "RESEARCH_TERRANINFANTRYWEAPONS"),
  (⟨652⟩, "RESEARCH_TERRANINFANTRYWEAPONSLEVEL1"),
  (⟨653⟩, "RESEARCH_TERRANINFANTRYWEAPONSLEVEL2"),
  (⟨654⟩, "RESEARCH_TERRANINFANTRYWEAPONSLEVEL3"),
  (⟨3699⟩, "RESEARCH_TERRANSHIPWEAPONS"),
  (⟨861⟩, "RESEARCH_TERRANSHIPWEAPONSLEVEL1"),
  (⟨862⟩, "RESEARCH_TERRANSHIPWEAPONSLEVEL2"),
  (⟨863⟩, "RESEARCH_TERRANSHIPWEAPONSLEVEL3"),
  (⟨651⟩, "RESEARCH_TERRANSTRUCTUREARMORUPGRADE"),
  (⟨3700⟩, "RESEARCH_TERRANVEHICLEANDSHIPPLATING"),
  (⟨864⟩, "RESEARCH_TERRANVEHICLEANDSHIPPLATINGLEVEL1"),
  (⟨865⟩, "RESEARCH_TERRANVEHICLEANDSHIPPLATINGLEVEL2"),
  (⟨866⟩, "RESEARCH_TERRANVEHICLEANDSHIPPLATINGLEVEL3"),
  (⟨3701⟩, "RESEARCH_TERRANVEHICLEWEAPONS"),
  (⟨855⟩, "RESEARCH_TERRANVEHICLEWEAPONSLEVEL1"),
  (⟨856⟩, "RESEARCH_TERRANVEHICLEWEAPONSLEVEL2"),
  (⟨857⟩, "RESEARCH_TERRANVEHICLEWEAPONSLEVEL3"),
  (⟨217⟩, "RESEARCH_TUNNELINGCLAWS"),
  (⟨1568⟩, "RESEARCH_WARPGATE"),
  (⟨3702⟩, "RESEARCH_ZERGFLYERARMOR"),
  (⟨1315⟩, "RESEARCH_ZERGFLYERARMORLEVEL1"),
  (⟨1316⟩, "RESEARCH_ZERGFLYERARMORLEVEL2"),
  (⟨1317⟩, "RESEARCH_ZERGFLYERARMORLEVEL3"),
  (⟨3703⟩, "RESEARCH_ZERGFLYERATTACK"),
  (⟨1312⟩, "RESEARCH_ZERGFLYERATTACKLEVEL1"),
  (⟨1313⟩, "RESEARCH_ZERGFLYERATTACKLEVEL2"),
  (⟨1314⟩, "RESEARCH_ZERGFLYERATTACKLEVEL3"),
  (⟨3704⟩, "RESEARCH_ZERGGROUNDARMOR"),
  (⟨1189⟩, "RESEARCH_ZERGGROUNDARMORLEVEL1"),
  (⟨1190⟩, "RESEARCH_ZERGGROUNDARMORLEVEL2"),
  (⟨1191⟩, "RESEARCH_ZERGGROUNDARMORLEVEL3"),
  (⟨1252⟩, "RESEARCH_ZERGLINGADRENALGLANDS"),
  (⟨1253⟩, "RESEARCH_ZERGLINGMETABOLICBOOST"),
  (⟨3705⟩, "RESEARCH_ZERGMELEEWEAPONS"),
  (⟨1186⟩, "RESEARCH_ZERGMELEEWEAPONSLEVEL1"),
  (⟨1187⟩, "RESEARCH_ZERGMELEEWEAPONSLEVEL2"),
  (⟨1188⟩, "RESEARCH_ZERGMELEEWEAPONSLEVEL3"),
  (⟨3706⟩, "RESEARCH_ZERGMISSILEWEAPONS"),
  (⟨1192⟩, "RESEARCH_ZERGMISSILEWEAPONSLEVEL1"),
  (⟨1193⟩, "RESEARCH_ZERGMISSILEWEAPONSLEVEL2"),
  (⟨1194⟩, "RESEARCH_ZERGMISSILEWEAPONSLEVEL3"),
  (⟨19⟩, "SCAN_MOVE"),
  (⟨3665⟩, "STOP"),
  (⟨2057⟩, "STOP_BUILDING"),
  (⟨6⟩, "STOP_CHEER"),
  (⟨7⟩, "STOP_DANCE"),
  (⟨1691⟩, "STOP_REDIRECT"),
  (⟨4⟩, "STOP_STOP"),
  (⟨1419⟩, "TRAINWARP_ADEPT"),
  (⟨1417⟩, "TRAINWARP_DARKTEMPLAR"),
  (⟨1416⟩, "TRAINWARP_HIGHTEMPLAR"),
  (⟨1418⟩, "TRAINWARP_SENTRY"),
  (⟨1414⟩, "TRAINWARP_STALKER"),
  (⟨1413⟩, "TRAINWARP_ZEALOT"),
  (⟨922⟩, "TRAIN_ADEPT"),
  (⟨80⟩, "TRAIN_BANELING"),
  (⟨621⟩, "TRAIN_BANSHEE"),
  (⟨623⟩, "TRAIN_BATTLECRUISER"),
  (⟨948⟩, "TRAIN_CARRIER"),
  (⟨978⟩, "TRAIN_COLOSSUS"),
  (⟨1353⟩, "TRAIN_CORRUPTOR"),
  (⟨597⟩, "TRAIN_CYCLONE"),
  (⟨920⟩, "TRAIN_DARKTEMPLAR"),
  (⟨994⟩, "TRAIN_DISRUPTOR"),
  (⟨1342⟩, "TRAIN_DRONE"),
  (⟨562⟩, "TRAIN_GHOST"),
  (⟨596⟩, "TRAIN_HELLBAT"),
  (⟨595⟩, "TRAIN_HELLION"),
  (⟨919⟩, "TRAIN_HIGHTEMPLAR"),
  (⟨1345⟩, "TRAIN_HYDRALISK"),
  (⟨979⟩, "TRAIN_IMMORTAL"),
  (⟨1352⟩, "TRAIN_INFESTOR"),
  (⟨626⟩, "TRAIN_LIBERATOR"),
  (⟨563⟩, "TRAIN_MARAUDER"),
  (⟨560⟩, "TRAIN_MARINE"),
  (⟨620⟩, "TRAIN_MEDIVAC"),
  (⟨110⟩, "TRAIN_MOTHERSHIP"),
  (⟨1853⟩, "TRAIN_MOTHERSHIPCORE"),
  (⟨1346⟩, "TRAIN_MUTALISK"),
  (⟨977⟩, "TRAIN_OBSERVER"),
  (⟨954⟩, "TRAIN_ORACLE"),
  (⟨1344⟩, "TRAIN_OVERLORD"),
  (⟨946⟩, "TRAIN_PHOENIX"),
  (⟨1006⟩, "TRAIN_PROBE"),
  (⟨1632⟩, "TRAIN_QUEEN"),
  (⟨622⟩, "TRAIN_RAVEN"),
  (⟨561⟩, "TRAIN_REAPER"),
  (⟨1351⟩, "TRAIN_ROACH"),
  (⟨524⟩, "TRAIN_SCV"),
  (⟨921⟩, "TRAIN_SENTRY"),
  (⟨591⟩, "TRAIN_SIEGETANK"),
  (⟨917⟩, "TRAIN_STALKER"),
  (⟨1356⟩, "TRAIN_SWARMHOST"),
  (⟨955⟩, "TRAIN_TEMPEST"),
  (⟨594⟩, "TRAIN_THOR"),
  (⟨1348⟩, "TRAIN_ULTRALISK"),
  (⟨624⟩, "TRAIN_VIKINGFIGHTER"),
  (⟨1354⟩, "TRAIN_VIPER"),
  (⟨950⟩, "TRAIN_VOIDRAY"),
  (⟨976⟩, "TRAIN_WARPPRISM"),
  (⟨614⟩, "TRAIN_WIDOWMINE"),
  (⟨916⟩, "TRAIN_ZEALOT"),
  (⟨1343⟩, "TRAIN_ZERGLING"),
  (⟨3664⟩, "UNLOADALL"),
  (⟨3669⟩, "UNLOADALLAT"),
  (⟨396⟩, "UNLOADALLAT_MEDIVAC"),
  (⟨1408⟩, "UNLOADALLAT_OVERLORD"),
  (⟨913⟩, "UNLOADALLAT_WARPPRISM"),
  (⟨408⟩, "UNLOADALL_BUNKER"),
  (⟨413⟩, "UNLOADALL_COMMANDCENTER"),
  (⟨1438⟩, "UNLOADALL_NYDASNETWORK"),
  (⟨2371⟩, "UNLOADALL_NYDUSWORM"),
  (⟨410⟩, "UNLOADUNIT_BUNKER"),
  (⟨415⟩, "UNLOADUNIT_COMMANDCENTER"),
  (⟨397⟩, "UNLOADUNIT_MEDIVAC"),
  (⟨1440⟩, "UNLOADUNIT_NYDASNETWORK"),
  (⟨1409⟩, "UNLOADUNIT_OVERLORD"),
  (⟨914⟩, "UNLOADUNIT_WARPPRISM")
]

def AbilityId.enumName (id : AbilityId) : String :=
  (enumNames.lookup id).getD ""

end Sc2
